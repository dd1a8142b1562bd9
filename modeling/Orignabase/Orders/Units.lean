import Orignabase.Orders.Refunds
import Orignabase.Store.Rules

/-
  The units of products that orders reserve, and those that
  requests put back.

  Key definitions include:
    * `reservedOf`
    * `stockOf`
    * `restored`

  Main results:
    * `restored_cons_matched`
    * `stockOf_setStock`
-/

--------
-- Units
--------

namespace Orignabase

open Conc

namespace Item

/- The units of a product that a physical item reserves. -/
def units (item : Item) (product : String) : ℕ :=
  if item.isDigital = false ∧
      docId "products" item.productId = product then
    item.qty.toNat
  else 0

/- The fields that decide what an item reserves. -/
def core (item : Item) : String × Int × Bool × Bool :=
  (item.productId, item.qty, item.isDigital,
    item.isPhysical)

theorem units_eq_of_core
    {item item' : Item}
    (hCore : item.core = item'.core)
    (product : String) :
    item.units product = item'.units product := by
  simp only [core, Prod.mk.injEq] at hCore
  rcases hCore with ⟨hId, hQty, hDigital, _⟩
  simp [units, hId, hQty, hDigital]

end Item

/- All units of a product that the items reserve. -/
def reservedOf (items : List Item) (product : String) : ℕ :=
  (items.map (fun it => it.units product)).sum

def reservedUnits (w : Store) (order product : String) :
    ℕ :=
  ((w.orders.get order).map
    (fun o => reservedOf o.items product)).getD 0

def stockOf (w : Store) (product : String) : Int :=
  ((w.products.get product).map Product.stock).getD 0

theorem reservedOf_congr
    {items items' : List Item}
    (hCore : items.map Item.core = items'.map Item.core)
    (product : String) :
    reservedOf items product =
      reservedOf items' product := by
  induction items generalizing items' with
  | nil =>
    have hNil : items' = [] := by simpa using hCore
    rw [hNil]
  | cons it rest ih =>
    cases items' with
    | nil => simp at hCore
    | cons it' rest' =>
      simp only [List.map_cons, List.cons.injEq] at hCore
      simp only [reservedOf, List.map_cons,
        List.sum_cons] at ih ⊢
      rw [Item.units_eq_of_core hCore.1, ih hCore.2]

--------
-- Restores In The Past Of A Thread
--------

/- The units that one event put back. -/
def unitsOf (product : String) :
    Event Op.Res Answer → Int
  | ⟨.casProduct id stock expected, _, r⟩ =>
    if matched r = true ∧
        docId "products" id = product then
      stock - expected
    else 0
  | _ => 0

/- The units a thread put back. -/
def restored (product : String) (tr : Trace) : Int :=
  (tr.map (unitsOf product)).sum

/- All units put back so far in a run. -/
def restoredTotal
    {α : Type}
    (c : Config Op.Res Answer Store α)
    (product : String) : Int :=
  (c.threads.map (fun t => restored product t.trace)).sum

theorem restored_cons_of_unitsOf
    {e : Event Op.Res Answer}
    (hUnits : ∀ product, unitsOf product e = 0)
    (tr : Trace)
    (product : String) :
    restored product (e :: tr) = restored product tr := by
  simp only [restored, List.map_cons, List.sum_cons, hUnits,
    zero_add]

/- A compare-and-set that matched put its units back. -/
theorem restored_cons_matched
    (id : String)
    (cur : Int)
    (n : ℕ)
    (a : Answer)
    (tr : Trace)
    (product : String) :
    restored product
        (⟨.casProduct id (cur + n) cur, a, .ok true⟩ :: tr) =
      (if docId "products" id = product then (n : Int)
      else 0) + restored product tr := by
  simp only [restored, List.map_cons, List.sum_cons, unitsOf,
    matched]
  by_cases hProduct : docId "products" id = product
  · simp [hProduct]
  · simp [hProduct]

theorem stockOf_setStock
    {w : Store}
    {id : String}
    {cur : Int}
    (hStock :
      (w.product? id).any (fun p =>
        p.stockQuantity = some cur) = true)
    (n : ℕ)
    (product : String) :
    stockOf (w.setStock id (cur + n)) product =
      stockOf w product +
        (if docId "products" id = product then (n : Int)
        else 0) := by
  rcases (Option.any_eq_true _ _).mp hStock with
    ⟨found, hFound, hIs⟩
  by_cases hProduct : docId "products" id = product
  · subst hProduct
    have hGet :
        w.products.get (docId "products" id) = some found :=
      hFound
    simp only [stockOf, Store.setStock,
      Table.get_modify_self, hGet, Option.map_some,
      Option.getD_some, Product.stock,
      of_decide_eq_true hIs, if_true]
  · have hGet :
        (w.setStock id (cur + n)).products.get product =
          w.products.get product :=
      Table.get_modify_of_ne _ (fun h => hProduct h.symm) _
    simp only [stockOf, hGet, hProduct, if_false, add_zero]

/- No item of the list has stock to restore. -/
def withoutStock (items : List Item) : Bool :=
  items.all (fun it => it.isDigital || it.qty ≤ 0)

theorem reservedOf_withoutStock
    {items : List Item}
    (hItems : withoutStock items = true)
    (product : String) :
    reservedOf items product = 0 := by
  induction items with
  | nil => rfl
  | cons it rest ih =>
    simp only [withoutStock, List.all_cons,
      Bool.and_eq_true, Bool.or_eq_true,
      decide_eq_true_eq] at hItems
    have hRest := ih hItems.2
    simp only [reservedOf, List.map_cons,
      List.sum_cons] at hRest ⊢
    rw [hRest, Nat.add_zero]
    rcases hItems.1 with hDigital | hQty
    · simp [Item.units, hDigital]
    · simp [Item.units, Int.toNat_of_nonpos hQty]

end Orignabase
