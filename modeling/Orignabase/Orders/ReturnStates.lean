import Orignabase.Orders.Returns
import Orignabase.Store.Rules

/-
  The states of return requests while several requests are
  answered at once.

  Every handler checks the status that it read and writes
  later without a guard.  The stored statuses follow the
  table of transitions in runs where no status has changed
  between the read and the write, and where no request for
  the item is open when a new one is stored.

  Key definitions include:
    * `ReturnCall`
    * `isReturnEdge`
    * `ReturnStep`
    * `ReturnsOrderly`

  Main results:
    * `along_returnCall`
    * `returns_orderly`
-/

--------
-- Requests And Edges
--------

namespace Orignabase

open Conc

inductive ReturnCall
  | create (auth : AuthContext) (req : CreateReturnRequest)
  | approve (auth : AuthContext) (req : ApproveReturnReq)
  | reject (auth : AuthContext) (req : RejectReturnReq)
  | escalate (auth : AuthContext) (req : EscalateReturnReq)
  | escalateStale
  deriving DecidableEq, Repr

inductive ReturnReply
  | created (response : CreateReturnResponse)
  | moved (response : ReturnStatusResponse)
  | swept
  deriving DecidableEq, Repr

namespace ReturnCall

def handler : ReturnCall → Handler ReturnReply
  | .create auth req =>
    (createReturnRequest auth req).map
      (Except.map ReturnReply.created)
  | .approve auth req =>
    (approveReturnRequest auth req).map
      (Except.map ReturnReply.moved)
  | .reject auth req =>
    (rejectReturnRequest auth req).map
      (Except.map ReturnReply.moved)
  | .escalate auth req =>
    (escalateReturnRequest auth req).map
      (Except.map ReturnReply.moved)
  | .escalateStale =>
    escalateStaleReturnRequests.map
      (Except.map (fun _ => ReturnReply.swept))

end ReturnCall

/- Runs of requests about returns. -/
def returnRun (w : Store) (calls : List ReturnCall) :
    Config Op.Res Answer Store (Except Error ReturnReply) :=
  Config.start w (calls.map ReturnCall.handler)

/-
  The changes of a status that are meant: those of the table,
  an escalation, and the receipt with its refund.
-/
def isReturnEdge (old new : String) : Bool :=
  (validReturnTransitions old).contains new ||
    (["requested", "approved"].contains old &&
      new = "escalated") ||
    (["approved", "label_issued"].contains old &&
      new = "refunded")

variable {r : ReturnRequest} {tr : Trace} {w w' : Store}
variable {o : Op} {a : Answer}

theorem not_isReturnEdge_of_settled
    (hSettled : r.isSettled = true)
    (new : String) :
    isReturnEdge r.returnStatus new = false := by
  simp only [ReturnRequest.isSettled, Bool.or_eq_true,
    decide_eq_true_eq] at hSettled
  rcases hSettled with hStatus | hStatus <;>
    simp [isReturnEdge, validReturnTransitions, hStatus]

/- A status from which the item may be received. -/
theorem mem_of_valid_received
    {status : String}
    (hValid :
      (validReturnTransitions status).contains "received" =
        true) :
    ["approved", "label_issued"].contains status = true := by
  unfold validReturnTransitions at hValid
  split at hValid <;> first | rfl | cases hValid

--------
-- What A Request Writes
--------

open Handler

/- Operations on the return requests themselves. -/
def Op.Apart : Op → Prop
  | .createReturn .. | .getReturn .. | .setReturnStatus ..
  | .staleReturns => False
  | _ => True

/- The status of a return request as an event told it. -/
def toldStatus (key : String) :
    Event Op.Res Answer → Option String
  | ⟨.getReturn id, _, r⟩ =>
    if docId "return_requests" id = key then
      (Except.toOption r).map
        (fun doc : ReturnRequest => doc.returnStatus)
    else none
  | ⟨.staleReturns, _, r⟩ =>
    (Except.toOption r).bind
      (fun rows : List (String × ReturnRequest) =>
        (rows.find? (fun row =>
          docId "return_requests" row.1 = key)).map
          (fun row => row.2.returnStatus))
  | _ => none

/- The status as the thread read it last. -/
def readStatus (key : String) (tr : Trace) :
    Option String :=
  tr.findSome? (toldStatus key)

theorem readStatus_cons_apart
    {e : Event Op.Res Answer}
    (hApart : e.op.Apart)
    (key : String)
    (tr : Trace) :
    readStatus key (e :: tr) = readStatus key tr := by
  have hNone : toldStatus key e = none := by
    rcases e with ⟨o, a, r⟩
    cases o <;> first | rfl | exact absurd hApart id
  simp [readStatus, hNone]

theorem readStatus_extends
    {key : String}
    {tr' : Trace}
    (hExtends : Prog.Extends Op.Apart tr tr') :
    readStatus key tr' = readStatus key tr := by
  induction hExtends with
  | refl => rfl
  | cons _ hOp ih => rw [readStatus_cons_apart hOp, ih]

/-
  What a request does to return requests: it opens one, or
  moves one along an edge from the status it read.
-/
inductive MayReturn (tr : Trace) : Op → Prop
  | apart
      {o : Op}
      (hApart : o.Apart) : MayReturn tr o
  | read
      {o : Op}
      (hRead : o.isRead = true) : MayReturn tr o
  | opens
      {doc : ReturnRequest}
      (hNew : doc.returnStatus = "requested") :
      MayReturn tr (.createReturn doc)
  | moves
      {id old new : String}
      {amount : Option Int}
      (hOld :
        readStatus (docId "return_requests" id) tr =
          some old)
      (hEdge : isReturnEdge old new = true) :
      MayReturn tr (.setReturnStatus id new amount)

/- Any reply will do. -/
def AnyReply {α : Type} (_ : Trace) (_ : α) : Prop := True

/- A handler that keeps to the table. -/
def Orderly {α : Type} (tr : Trace) (p : Prog Op.Res α) :
    Prop :=
  p.Along Happens MayReturn AnyReply tr

variable {old new : String}

section

variable {α β : Type} {tr : Trace}

theorem Orderly.of_uses
    {p : Prog Op.Res α}
    (hUses : p.Uses Op.Apart) :
    Orderly tr p :=
  (hUses.along (fun _ _ _ hApart => .apart hApart)).mono
    (fun _ _ h => h) (fun _ _ _ => trivial)

theorem orderly_bind
    {p : Prog Op.Res β}
    {f : β → Handler α}
    (hUses : p.Uses Op.Apart)
    (hNext :
      ∀ tr' b, Prog.Extends Op.Apart tr tr' →
        Orderly tr' (f b)) :
    Orderly tr (p.bind f) :=
  along_bind hUses (fun _ _ _ hApart => .apart hApart) hNext

theorem orderly_andThen
    {p : Handler β}
    {f : β → Handler α}
    (hUses : p.Uses Op.Apart)
    (hNext :
      ∀ tr' b, Prog.Extends Op.Apart tr tr' →
        Orderly tr' (f b)) :
    Orderly tr (andThen p f) :=
  along_andThen hUses (fun _ _ _ hApart => .apart hApart)
    (fun _ _ _ => trivial) hNext

theorem orderly_require
    {check : Bool}
    {e : Error}
    {next : Handler α}
    (hNext : check = true → Orderly tr next) :
    Orderly tr (require check e next) :=
  along_require trivial hNext

theorem orderly_lift
    {r : Except Error β}
    {f : β → Handler α}
    (hNext : ∀ b, r = .ok b → Orderly tr (f b)) :
    Orderly tr (andThen (lift r) f) :=
  along_lift (fun _ _ => trivial) hNext

/- A write that follows an edge, then the rest. -/
theorem orderly_setReturnStatus
    {id : String}
    {amount : Option Int}
    {message : String}
    {f : Unit → Handler α}
    (hOld :
      readStatus (docId "return_requests" id) tr = some old)
    (hEdge : isReturnEdge old new = true)
    (hNext : ∀ u, (f u).Uses Op.Apart) :
    Orderly tr
      (andThen
        (context (Db.setReturnStatus id new amount) message)
        f) := by
  refine ⟨.moves hOld hEdge, ?_⟩
  intro a r _
  cases r with
  | error e => trivial
  | ok u => exact Orderly.of_uses (hNext u)

end

--------
-- Following The Handlers
--------

variable {doc : ReturnRequest}

section

variable {α : Type} {tr : Trace}

theorem apart_isUserAdmin (userId : String) :
    (isUserAdmin userId).Uses Op.Apart := by
  refine ⟨trivial, ?_⟩
  intro r
  cases r <;> trivial

theorem apart_restoreStock
    (message productId : String)
    (qty : Int)
    (attempts : Nat) :
    (restoreStock message productId qty attempts).Uses
      Op.Apart := by
  induction attempts with
  | zero => trivial
  | succ attempts ih =>
    refine ⟨trivial, ?_⟩
    intro r
    refine ⟨trivial, ?_⟩
    intro r'
    cases r' with
    | error e => trivial
    | ok restored =>
      cases restored with
      | false => exact ih
      | true => trivial

theorem apart_checkExisting
    (req : CreateReturnRequest)
    (userId : String) :
    (checkExisting req userId).Uses Op.Apart := by
  refine ⟨trivial, ?_⟩
  intro r
  cases r with
  | error e => trivial
  | ok found =>
    cases found with
    | none => trivial
    | some existing => exact uses_require trivial

theorem orderly_storeReturn
    (req : CreateReturnRequest)
    (userId : String)
    (item : Item) :
    Orderly tr (storeReturn req userId item) := by
  refine ⟨.read rfl, ?_⟩
  intro a returnId _
  refine ⟨.opens rfl, ?_⟩
  intro a' r _
  cases r <;> trivial

theorem orderly_createReturnRequest
    (auth : AuthContext)
    (req : CreateReturnRequest) :
    Orderly tr (createReturnRequest auth req) := by
  apply orderly_lift
  intro _ _
  apply orderly_lift
  intro _ _
  apply orderly_lift
  intro userId _
  apply orderly_andThen
  · exact uses_perform trivial
  intro tr₁ _ _
  apply orderly_require
  intro _
  apply orderly_andThen
  · exact uses_mapErr (uses_perform trivial) _
  intro tr₂ order _
  apply orderly_require
  intro _
  split
  · trivial
  · rename_i item _
    apply orderly_require
    intro _
    apply orderly_require
    intro _
    apply orderly_bind
    · unfold outsideReturnWindow
      split <;> first | exact uses_perform trivial | trivial
    intro tr₃ expired _
    apply orderly_require
    intro _
    apply orderly_andThen (apart_checkExisting req userId)
    intro tr₄ _ _
    exact orderly_storeReturn req userId item

/- The request was read just now. -/
theorem readStatus_getReturn
    (returnId : String)
    (a : Answer)
    (doc : ReturnRequest)
    (tr : Trace) :
    readStatus (docId "return_requests" returnId)
        (⟨.getReturn returnId, a, .ok doc⟩ :: tr) =
      some doc.returnStatus := by
  simp [readStatus, toldStatus, Except.toOption]

variable {returnId : String}

theorem orderly_moveReturn
    (hOld :
      readStatus (docId "return_requests" returnId) tr =
        some old)
    (hEdge : isReturnEdge old new = true) :
    Orderly tr (moveReturn returnId new) :=
  orderly_setReturnStatus hOld hEdge (fun _ => trivial)

theorem orderly_markReceived
    (hOld :
      readStatus (docId "return_requests" returnId) tr =
        some doc.returnStatus)
    (hValid :
      (validReturnTransitions doc.returnStatus).contains
        "received" = true)
    (userId now : String) :
    Orderly tr (markReceived returnId userId now doc) := by
  have hEdge :
      isReturnEdge doc.returnStatus "refunded" = true := by
    have hFrom := mem_of_valid_received hValid
    simp only [isReturnEdge, hFrom]
    simp
  apply orderly_andThen
  · exact uses_mapErr (uses_perform trivial) _
  intro tr₁ order hRead
  split
  · trivial
  · apply orderly_lift
    intro amount _
    apply orderly_andThen
    · unfold refundReturn
      split_ifs
      · exact uses_perform trivial
      · trivial
    intro tr₂ refundId hRefund
    apply orderly_andThen
    · unfold restoreReturned
      dsimp only
      split_ifs
      · refine uses_andThen (apart_restoreStock _ _ _ _) ?_
        intro restored
        exact uses_require trivial
      · trivial
    intro tr₃ _ hRestored
    apply orderly_setReturnStatus ?_ hEdge
    · intro _
      refine uses_andThen ?_ ?_
      · exact uses_mapErr (uses_perform trivial) _
      intro _
      refine uses_andThen ?_ ?_
      · exact uses_mapErr (uses_perform trivial) _
      intro _
      trivial
    · rw [readStatus_extends hRestored,
        readStatus_extends hRefund,
        readStatus_extends hRead, hOld]

theorem orderly_answerReturn
    {userId verb : String}
    {next : ReturnRequest → Handler ReturnStatusResponse}
    (hNext :
      ∀ tr' doc,
        readStatus (docId "return_requests" returnId) tr' =
            some doc.returnStatus →
        Orderly tr' (next doc)) :
    Orderly tr (answerReturn returnId userId verb next) := by
  apply orderly_bind (apart_isUserAdmin userId)
  intro tr₁ isAdmin _
  refine ⟨.read rfl, ?_⟩
  intro a r _
  cases r with
  | error e => trivial
  | ok doc =>
    apply orderly_require
    intro _
    exact hNext _ doc (readStatus_getReturn returnId a doc _)

theorem orderly_performAction
    {req : ApproveReturnReq}
    (hOld :
      readStatus (docId "return_requests" req.returnId) tr =
        some doc.returnStatus)
    (userId now : String) :
    Orderly tr (performAction req userId now doc) := by
  unfold performAction
  split
  · apply orderly_require
    intro hValid
    apply orderly_moveReturn hOld
    simp only [isReturnEdge, hValid, Bool.true_or]
  · apply orderly_require
    intro hValid
    apply orderly_moveReturn hOld
    simp only [isReturnEdge, hValid, Bool.true_or]
  · apply orderly_require
    intro hValid
    exact orderly_markReceived hOld hValid userId now
  · trivial

theorem orderly_approveReturnRequest
    (auth : AuthContext)
    (req : ApproveReturnReq) :
    Orderly tr (approveReturnRequest auth req) := by
  apply orderly_lift
  intro _ _
  apply orderly_lift
  intro userId _
  apply orderly_andThen
  · exact uses_perform trivial
  intro tr₁ _ _
  apply orderly_answerReturn
  intro tr₂ doc hRead
  apply orderly_bind
  · exact uses_perform trivial
  intro tr₃ now hExtends
  apply orderly_performAction
  rw [readStatus_extends hExtends, hRead]

theorem orderly_rejectReturnRequest
    (auth : AuthContext)
    (req : RejectReturnReq) :
    Orderly tr (rejectReturnRequest auth req) := by
  apply orderly_lift
  intro _ _
  apply orderly_lift
  intro userId _
  apply orderly_andThen
  · exact uses_perform trivial
  intro tr₁ _ _
  apply orderly_answerReturn
  intro tr₂ doc hRead
  apply orderly_require
  intro hValid
  apply orderly_moveReturn hRead
  simp only [isReturnEdge, hValid, Bool.true_or]

theorem orderly_escalateReturnRequest
    (auth : AuthContext)
    (req : EscalateReturnReq) :
    Orderly tr (escalateReturnRequest auth req) := by
  apply orderly_lift
  intro _ _
  apply orderly_lift
  intro userId _
  apply orderly_andThen
  · exact uses_perform trivial
  intro tr₁ _ _
  apply orderly_require
  intro _
  refine ⟨.read rfl, ?_⟩
  intro a r _
  cases r with
  | error e => trivial
  | ok doc =>
    have hRead := readStatus_getReturn req.returnId a doc tr₁
    apply orderly_require
    intro _
    apply orderly_require
    intro hOpen
    have hEdge :
        isReturnEdge doc.returnStatus "escalated" =
          true := by
      simp only [isReturnEdge, hOpen]
      simp
    refine ⟨.moves hRead hEdge, ?_⟩
    intro a' r' _
    cases r' with
    | error e => trivial
    | ok u =>
      apply Orderly.of_uses
      refine ⟨trivial, ?_⟩
      intro r''
      cases r'' <;> trivial

/- The job found every row in the first status. -/
theorem requested_of_staleReturns
    {a : Answer}
    {rows : List (String × ReturnRequest)}
    (hHappens : Happens ⟨.staleReturns, a, .ok rows⟩)
    {row : String × ReturnRequest}
    (hRow : row ∈ rows) :
    row.2.returnStatus = "requested" := by
  rcases hHappens with ⟨w, hRes⟩
  simp only [exec, Answer.guard] at hRes
  split_ifs at hRes
  cases hRes
  have hTest := (List.mem_filter.mp hRow).2
  simp only [Bool.and_eq_true, decide_eq_true_eq] at hTest
  exact hTest.1

theorem orderly_escalateAll
    {rest : List (String × ReturnRequest)}
    (hRest :
      ∀ row ∈ rest,
        readStatus (docId "return_requests" row.1) tr =
          some "requested") :
    Orderly tr (escalateAll rest) := by
  induction rest generalizing tr with
  | nil => trivial
  | cons row rest ih =>
    refine ⟨.moves (hRest row List.mem_cons_self) rfl, ?_⟩
    intro a r _
    apply ih
    intro other hOther
    have hTold :
        toldStatus (docId "return_requests" other.1)
            ⟨.setReturnStatus row.1 "escalated" none, a,
              r⟩ =
          none := rfl
    rw [← hRest other (List.mem_cons_of_mem _ hOther)]
    simp [readStatus, hTold]

theorem orderly_underCronLock
    {job : String}
    {body : Handler Unit}
    (hBody : ∀ tr', Orderly tr' body) :
    Orderly tr (underCronLock job body) := by
  refine ⟨.read rfl, ?_⟩
  intro a acquired _
  cases acquired with
  | false => trivial
  | true =>
    apply Prog.Along.bind (hBody _)
    intro tr' result _
    apply Orderly.of_uses
    refine Prog.Uses.bind ?_ (fun _ => ?_)
    · cases result with
      | error e => exact uses_perform trivial
      | ok u => trivial
    · exact ⟨trivial, fun _ => trivial⟩

theorem orderly_escalateStaleReturnRequests :
    Orderly tr escalateStaleReturnRequests := by
  apply orderly_underCronLock
  intro tr'
  refine ⟨.read rfl, ?_⟩
  intro a r hHappens
  cases r with
  | error e => trivial
  | ok rows =>
    apply orderly_escalateAll
    intro row hRow
    have hFound :
        (rows.find? (fun other =>
          docId "return_requests" other.1 =
            docId "return_requests" row.1)).isSome =
          true := by
      rw [List.find?_isSome]
      exact ⟨row, hRow, by simp⟩
    rcases Option.isSome_iff_exists.mp hFound with
      ⟨other, hOther⟩
    have hStatus := requested_of_staleReturns hHappens
        (List.mem_of_find?_eq_some hOther)
    simp [readStatus, toldStatus, Except.toOption, hOther,
      hStatus]

theorem Orderly.map
    {β : Type}
    {p : Prog Op.Res α}
    (hOrderly : Orderly tr p)
    (f : α → β) :
    Orderly tr (p.map f) :=
  Prog.Along.bind hOrderly (fun _ _ _ => trivial)

theorem along_returnCall (call : ReturnCall) :
    Orderly [] call.handler := by
  cases call with
  | create auth req =>
    exact (orderly_createReturnRequest auth req).map _
  | approve auth req =>
    exact (orderly_approveReturnRequest auth req).map _
  | reject auth req =>
    exact (orderly_rejectReturnRequest auth req).map _
  | escalate auth req =>
    exact (orderly_escalateReturnRequest auth req).map _
  | escalateStale =>
    exact orderly_escalateStaleReturnRequests.map _

end

--------
-- One Step Of A Run
--------

/- Two requests for one item of an order. -/
def sameItem (r s : ReturnRequest) : Bool :=
  docId "orders" r.orderId = docId "orders" s.orderId &&
    r.productId = s.productId

/- An open request for the item is stored. -/
def hasOpen (w : Store) (doc : ReturnRequest) : Bool :=
  w.returnRequests.rows.any (fun row =>
    !row.2.isSettled && sameItem row.2 doc)

/-
  Every write finds the status that its thread read, and no
  request is stored while one is open for the item.
-/
def returnStep :
    Trace → Op → Answer → Store → Bool :=
  fun tr o _ w =>
    match o with
    | .setReturnStatus id _ _ =>
      let key := docId "return_requests" id
      (w.returnRequests.get key).map
          (fun r => r.returnStatus) =
        readStatus key tr
    | .createReturn doc => !hasOpen w doc
    | _ => true

def ReturnStep : StepCond Op.Res Answer Store :=
  fun tr o a w => returnStep tr o a w = true

instance (tr : Trace) (o : Op) (a : Answer) (w : Store) :
    Decidable (ReturnStep tr o a w) :=
  inferInstanceAs (Decidable (_ = true))

/- Each stored request stays or moves along an edge. -/
def ReturnsMove (w w' : Store) : Prop :=
  ∀ id r, w.returnRequests.get id = some r →
    ∃ r', w'.returnRequests.get id = some r' ∧ (r' = r ∨
        (isReturnEdge r.returnStatus r'.returnStatus =
            true ∧
          r'.orderId = r.orderId ∧
          r'.productId = r.productId))

/- At most one open request for each item of an order. -/
def OneOpen (w : Store) : Prop :=
  ∀ id r id' r', w.returnRequests.get id = some r →
    w.returnRequests.get id' = some r' →
    r.isSettled = false →
    r'.isSettled = false →
    sameItem r r' = true →
    id = id'

theorem ReturnsMove.refl (w : Store) : ReturnsMove w w :=
  fun _ r hGet => ⟨r, hGet, Or.inl rfl⟩

theorem ReturnsMove.of_eq
    (hSame : w'.returnRequests = w.returnRequests) :
    ReturnsMove w w' := by
  intro id r hGet
  rw [← hSame] at hGet
  exact ⟨r, hGet, Or.inl rfl⟩

/- A settled request stays as it is. -/
theorem ReturnsMove.settled
    (hMove : ReturnsMove w w')
    {id : String}
    (hGet : w.returnRequests.get id = some r)
    (hSettled : r.isSettled = true) :
    w'.returnRequests.get id = some r := by
  rcases hMove id r hGet with ⟨r', hGet', hSame | hEdge⟩
  · rw [hGet', hSame]
  · rw [not_isReturnEdge_of_settled hSettled] at hEdge
    cases hEdge.1

theorem OneOpen.of_eq
    (hSame : w'.returnRequests = w.returnRequests)
    (hOne : OneOpen w) :
    OneOpen w' := by
  unfold OneOpen
  rw [hSame]
  exact hOne

/- Only two operations write return requests. -/
theorem returnRequests_apart
    (hApart : o.Apart)
    (a : Answer)
    (w : Store) :
    (exec o a w).2.returnRequests = w.returnRequests := by
  cases o with
  | createReturn doc => exact hApart.elim
  | setReturnStatus id status amount => exact hApart.elim
  | _ =>
    simp only [exec, Answer.guard] <;>
      first
        | rfl
        | (split_ifs <;> first | rfl | (split <;> rfl))

theorem returnsMove_setReturnStatus
    {id : String}
    {amount : Option Int}
    (hOld :
      readStatus (docId "return_requests" id) tr = some old)
    (hEdge : isReturnEdge old new = true)
    (hStep :
      ReturnStep tr (.setReturnStatus id new amount) a w) :
    ReturnsMove w
      (exec (.setReturnStatus id new amount) a w).2 := by
  have hFound :
      (w.returnRequests.get
          (docId "return_requests" id)).map
          (fun r => r.returnStatus) =
        some old := by
    rw [← hOld]
    simpa [ReturnStep, returnStep] using hStep
  simp only [exec, Answer.guard]
  split_ifs
  · exact ReturnsMove.refl w
  · intro key r hGet
    dsimp only
    rw [Table.get_modify]
    by_cases hKey : key = docId "return_requests" id
    · subst hKey
      have hStatus : r.returnStatus = old := by
        simpa [hGet] using hFound
      rw [if_pos rfl, hGet]
      refine ⟨_, rfl, Or.inr ⟨?_, rfl, rfl⟩⟩
      rw [hStatus]
      exact hEdge
    · rw [if_neg hKey]
      exact ⟨r, hGet, Or.inl rfl⟩
  · exact ReturnsMove.refl w

theorem returnsMove_createReturn
    (doc : ReturnRequest)
    (a : Answer)
    (w : Store) :
    ReturnsMove w (exec (.createReturn doc) a w).2 := by
  simp only [exec, Answer.guard]
  split_ifs
  · exact ReturnsMove.refl w
  · exact ReturnsMove.refl w
  · intro key r hGet
    refine ⟨r, ?_, Or.inl rfl⟩
    dsimp only
    rw [Table.get_insert, hGet, Option.some_or]

theorem returnsMove_exec
    (hMay : MayReturn tr o)
    (hStep : ReturnStep tr o a w) :
    ReturnsMove w (exec o a w).2 := by
  cases hMay with
  | apart hApart =>
    exact .of_eq (returnRequests_apart hApart a w)
  | read hRead =>
    rw [exec_read hRead]
    exact ReturnsMove.refl w
  | opens hNew => exact returnsMove_createReturn _ a w
  | moves hOld hEdge =>
    exact returnsMove_setReturnStatus hOld hEdge hStep

/- Along an edge, only open requests stay open. -/
theorem OneOpen.moves
    {w w' : Store}
    (hOne : OneOpen w)
    (hMove : ReturnsMove w w')
    (hStored :
      ∀ id r', w'.returnRequests.get id = some r' →
        ∃ r, w.returnRequests.get id = some r) :
    OneOpen w' := by
  have hBack :
      ∀ id r', w'.returnRequests.get id = some r' →
        r'.isSettled = false →
          ∃ r, w.returnRequests.get id = some r ∧
            r.isSettled = false ∧
            r.orderId = r'.orderId ∧
            r.productId = r'.productId := by
    intro id r' hGet' hOpen'
    rcases hStored id r' hGet' with ⟨r, hGet⟩
    have hOpen : r.isSettled = false := by
      by_contra hNot
      have hSame := hMove.settled hGet (by simpa using hNot)
      rw [hGet'] at hSame
      cases hSame
      exact hNot hOpen'
    rcases hMove id r hGet with ⟨r'', hGet'', hCase⟩
    rw [hGet'] at hGet''
    cases hGet''
    rcases hCase with rfl | ⟨_, hOrder, hProduct⟩
    · exact ⟨r', hGet, hOpen, rfl, rfl⟩
    · exact ⟨r, hGet, hOpen, hOrder.symm, hProduct.symm⟩
  intro id r' id' s' hGet hGet' hOpen hOpen' hSame
  rcases hBack id r' hGet hOpen with
    ⟨r, hOld, hOldOpen, hOrder, hProduct⟩
  rcases hBack id' s' hGet' hOpen' with
    ⟨s, hOld', hOldOpen', hOrder', hProduct'⟩
  refine hOne id r id' s hOld hOld' hOldOpen hOldOpen' ?_
  rw [sameItem, hOrder, hProduct, hOrder', hProduct']
  exact hSame

theorem not_open_of_get
    {id : String}
    (hNone : hasOpen w doc = false)
    (hGet : w.returnRequests.get id = some r)
    (hOpen : r.isSettled = false) :
    sameItem r doc = false := by
  have hRow := List.any_eq_false.mp hNone _
    (Table.mem_of_get hGet)
  simpa [hOpen] using hRow

theorem sameItem_comm (r s : ReturnRequest) :
    sameItem r s = sameItem s r := by
  simp only [sameItem, eq_comm]

theorem oneOpen_createReturn
    (hStep : ReturnStep tr (.createReturn doc) a w)
    (hOne : OneOpen w) :
    OneOpen (exec (.createReturn doc) a w).2 := by
  have hNone : hasOpen w doc = false := by
    simpa [ReturnStep, returnStep] using hStep
  simp only [exec, Answer.guard]
  split_ifs with _ hTaken
  · exact hOne
  · exact hOne
  · intro id r id' r' hGet hGet' hOpen hOpen' hSame
    dsimp only at hGet hGet'
    rw [Table.get_insert] at hGet hGet'
    -- A row was there before, or it is the new one.
    rcases Option.or_eq_some_iff.mp hGet with
      hOld | ⟨_, hNew⟩ <;>
      rcases Option.or_eq_some_iff.mp hGet' with
        hOld' | ⟨_, hNew'⟩
    · exact hOne id r id' r' hOld hOld' hOpen hOpen' hSame
    · simp only [Option.ite_none_right_eq_some,
        Option.some.injEq] at hNew'
      rcases hNew' with ⟨_, rfl⟩
      rw [not_open_of_get hNone hOld hOpen] at hSame
      cases hSame
    · simp only [Option.ite_none_right_eq_some,
        Option.some.injEq] at hNew
      rcases hNew with ⟨_, rfl⟩
      rw [sameItem_comm,
        not_open_of_get hNone hOld' hOpen'] at hSame
      cases hSame
    · simp only [Option.ite_none_right_eq_some] at hNew hNew'
      rw [hNew.1, hNew'.1]

theorem oneOpen_exec
    (hMay : MayReturn tr o)
    (hStep : ReturnStep tr o a w)
    (hOne : OneOpen w) :
    OneOpen (exec o a w).2 := by
  have hMove := returnsMove_exec hMay hStep
  cases hMay with
  | apart hApart =>
    exact hOne.of_eq (returnRequests_apart hApart a w)
  | read hRead =>
    rw [exec_read hRead]
    exact hOne
  | opens hNew => exact oneOpen_createReturn hStep hOne
  | @moves id old new amount hOld hEdge =>
    apply hOne.moves hMove
    intro key r' hGet'
    simp only [exec, Answer.guard] at hGet'
    split_ifs at hGet'
    · exact ⟨r', hGet'⟩
    · dsimp only at hGet'
      rw [Table.get_modify] at hGet'
      split_ifs at hGet'
      · rcases Option.map_eq_some_iff.mp hGet' with
          ⟨r, hGet, _⟩
        exact ⟨r, hGet⟩
      · exact ⟨r', hGet'⟩
    · exact ⟨r', hGet'⟩

--------
-- Whole Runs
--------

abbrev ReturnRun :=
  Config Op.Res Answer Store (Except Error ReturnReply)

/-
  What holds of the return requests in a state of a run: at
  most one is open for an item, the next step moves each along
  an edge or not at all, and one that is settled stays as it
  is for the rest of the run.
-/
structure ReturnsOrderly
    (cond : StepCond Op.Res Answer Store)
    (c : ReturnRun) : Prop where
  one : OneOpen c.world
  moves :
    ∀ i a c',
      c.step exec i a = some c' →
      c.Allowed cond i a →
        ReturnsMove c.world c'.world
  final :
    ∀ c', Reach exec cond c c' →
      ∀ id r,
        c.world.returnRequests.get id = some r →
        r.isSettled = true →
          c'.world.returnRequests.get id = some r

section

variable {w : Store} {calls : List ReturnCall}
variable {c c' : ReturnRun}

theorem mayReturn_of_thread
    {cond : StepCond Op.Res Answer Store}
    (hReach : Reach exec cond (returnRun w calls) c)
    {i : Nat}
    {tr : Trace}
    {o : Op}
    {k : o.Res → Handler ReturnReply}
    (hThread : c.threads[i]? = some ⟨tr, .call o k⟩) :
    MayReturn tr o := by
  have hAlong :
      ∀ call ∈ calls,
        call.handler.Along Happens MayReturn AnyReply [] :=
    fun call _ => along_returnCall call
  rcases hReach.along (fun _ _ _ w _ => ⟨w, rfl⟩) hAlong i _
      hThread with ⟨_, _, hNow⟩
  exact hNow.1

theorem returnsMove_step
    (hReach :
      Reach exec ReturnStep (returnRun w calls) c)
    {i : Nat}
    {a : Answer}
    (hStep : c.step exec i a = some c')
    (hAllowed : c.Allowed ReturnStep i a) :
    ReturnsMove c.world c'.world := by
  rcases Config.step_eq_some_iff.mp hStep with
    ⟨tr, o, k, hThread, rfl⟩
  have hCond : ReturnStep tr o a c.world := by
    simpa [Config.Allowed, hThread] using hAllowed
  exact returnsMove_exec (mayReturn_of_thread hReach hThread)
    hCond

theorem oneOpen_run
    (hStart : OneOpen w)
    (hReach :
      Reach exec ReturnStep (returnRun w calls) c) :
    OneOpen c.world := by
  induction hReach with
  | refl => exact hStart
  | step hReach hStep hAllowed ih =>
    rcases Config.step_eq_some_iff.mp hStep with
      ⟨tr, o, k, hThread, rfl⟩
    exact oneOpen_exec (mayReturn_of_thread hReach hThread)
      (by simpa [Config.Allowed, hThread] using hAllowed) ih

/-
  In every run whose writes find the statuses they are based
  on, and whose new requests find none open for the item, the
  return requests follow the table.
-/
theorem returns_orderly
    (hStart : OneOpen w)
    (hReach :
      Reach exec ReturnStep (returnRun w calls) c) :
    ReturnsOrderly ReturnStep c := by
  refine ⟨oneOpen_run hStart hReach, ?_, ?_⟩
  · intro i a c' hStep hAllowed
    exact returnsMove_step hReach hStep hAllowed
  · intro c' hLater id r hGet hSettled
    induction hLater with
    | refl => exact hGet
    | step hLater hStep hAllowed ih =>
      have hMove := returnsMove_step (hReach.trans hLater)
        hStep hAllowed
      exact hMove.settled ih hSettled

end

/- One request of a buyer that waits for its seller. -/
def requestedStore : Store where
  returnRequests := ⟨[("r1",
        { returnId := "r1"
          orderId := "o1"
          buyerId := "u1"
          sellerId := "s1"
          productId := "p1"
          quantity := some 1
          returnStatus := "requested" })]⟩

theorem oneOpen_requestedStore :
    OneOpen requestedStore := by
  intro id r id' r' hGet hGet' _ _ _
  have hMem := Table.mem_of_get hGet
  have hMem' := Table.mem_of_get hGet'
  simp only [requestedStore, List.mem_singleton,
    Prod.mk.injEq] at hMem hMem'
  rw [hMem.1, hMem'.1]

/- The seller approves and rejects the request. -/
def approveAndReject : List ReturnCall :=
  [.approve { userId := "s1" }
      { returnId := "r1", userId := "s1" },
    .reject { userId := "s1" }
      { returnId := "r1", userId := "s1" }]

/- The rejection is answered before the approval begins. -/
theorem returns_orderly_rejected :
    ∃ c r, Reach exec ReturnStep
          (returnRun requestedStore approveAndReject) c ∧
        c.Quiet ∧
        c.world.returnRequests.get "r1" = some r ∧
        r.returnStatus = "rejected" ∧
        ReturnsOrderly ReturnStep c := by
  have hRun :
      ((returnRun requestedStore approveAndReject).run exec
        (turns 1 4 ++ turns 0 4)).any (fun c =>
          decide c.Quiet &&
            (c.world.returnRequests.get "r1").any (fun r =>
              r.returnStatus = "rejected")) =
        true := by decide
  rcases (Option.any_eq_true _ _).mp hRun with ⟨c, hRun, hEnd⟩
  simp only [Bool.and_eq_true, decide_eq_true_eq,
    Option.any_eq_true] at hEnd
  rcases hEnd with ⟨hQuiet, r, hGet, hStatus⟩
  have hReach : Reach exec ReturnStep _ c :=
    Reach.of_run hRun (by decide)
  exact ⟨c, r, hReach, hQuiet, hGet, hStatus,
    returns_orderly oneOpen_requestedStore hReach⟩

/-
  The approval reads the request before the rejection is
  written and writes after it: a rejected request is approved.
-/
theorem rejected_return_approved :
    ∃ c, Reach exec AnyStep
          (returnRun requestedStore approveAndReject) c ∧
        ¬ ReturnsOrderly AnyStep c := by
  have hRun :
      ((returnRun requestedStore approveAndReject).run exec
        (turns 0 4 ++ turns 1 4)).any (fun c =>
          (c.world.returnRequests.get "r1").any (fun r =>
            r.returnStatus = "rejected") &&
          (c.step exec 0 { fault := false }).any (fun c' =>
            (c'.world.returnRequests.get "r1").any (fun r =>
              r.returnStatus = "approved"))) =
        true := by decide
  rcases (Option.any_eq_true _ _).mp hRun with ⟨c, hRun, hEnd⟩
  simp only [Bool.and_eq_true, Option.any_eq_true,
    decide_eq_true_eq] at hEnd
  rcases hEnd with
    ⟨⟨r, hGet, hStatus⟩, c', hStep, r', hGet', hStatus'⟩
  have hReach : Reach exec AnyStep _ c :=
    Reach.of_run hRun (by decide)
  refine ⟨c, hReach, ?_⟩
  intro hOrderly
  have hAllowed :
      c.Allowed AnyStep 0 { fault := false } := by
    unfold Config.Allowed
    split <;> trivial
  have hSame := hOrderly.final c'
    (Reach.step Reach.refl hStep hAllowed) "r1" r hGet
    (by simp [ReturnRequest.isSettled, hStatus])
  rw [hGet'] at hSame
  cases hSame
  rw [hStatus] at hStatus'
  exact absurd hStatus' (by decide)

end Orignabase
