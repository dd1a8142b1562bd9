import Mathlib.Algebra.Group.Nat.Defs
import Mathlib.Data.List.Infix
import Orignabase.Core.Validate

/-
  Calls of WebAssembly functions
  (`ob-functions/src/runtime.rs`, `execute_sync`).

  What a module does is a parameter: the outcomes of the
  calls into the engine, each with the text of its error.  In
  a build with overflow checks an addition that overflows ends
  the task, in any other build it wraps.

  Key definitions include:
    * `Memory`, `Module`
    * `executeSync`
    * `Conforms`
    * `Addressable`

  Main results:
    * `inRange_low`, `inRange_high`
    * `execute_conforms_iff`
-/

--------
-- Memory
--------

namespace Orignabase.Functions

/- A linear memory has at most `2 ^ 32` bytes. -/
structure Memory where
  bytes : List UInt8
  bound : bytes.length ≤ 2 ^ 32

namespace Memory

def size (memory : Memory) : Nat :=
  memory.bytes.length

def slice (memory : Memory) (start len : Nat) :
    List UInt8 :=
  (memory.bytes.drop start).take len

/- Put bytes at a place, up to the end of the memory. -/
def write
    (memory : Memory)
    (start : Nat)
    (data : List UInt8) : Memory where
  bytes := memory.bytes.mapIdx (fun i byte =>
      if start ≤ i then data[i - start]?.getD byte else byte)
  bound := by
    rw [List.length_mapIdx]
    exact memory.bound

theorem size_le (memory : Memory) :
    memory.size ≤ 2 ^ 32 :=
  memory.bound

@[simp] theorem size_write
    (memory : Memory)
    (start : Nat)
    (data : List UInt8) :
    (memory.write start data).size = memory.size := by
  rw [size, size, write, List.length_mapIdx]

end Memory

def bytesOf (text : String) : List UInt8 :=
  text.toByteArray.data.toList

/- `String::from_utf8` -/
def decode (bytes : List UInt8) : Option String :=
  String.fromUTF8? ⟨bytes.toArray⟩

/- An addition of `usize`, none if its check fails. -/
def addUsize (checked : Bool) (a b : Nat) : Option Nat :=
  if a + b < 2 ^ 64 then some (a + b)
  else if checked then none
  else some (a + b - 2 ^ 64)

/-
  Whether `start..start + len` is a range of a slice of `size`
  bytes.
-/
def inRange (checked : Bool) (size start len : Nat) :
    Option Bool :=
  (addUsize checked start len).map (fun stop =>
    start ≤ stop && stop ≤ size)

--------
-- Execution
--------

/- A module and its exports, as the engine answers for them. -/
structure Module where
  setFuel : Except String Unit
  instantiate : Except String Unit
  start : Except String Unit
  memory : Option Memory
  alloc :
    Except String
      (Memory → BitVec 32 →
        Except String (BitVec 32 × Memory))
  function :
    String →
      Except String
        (Memory → BitVec 32 → BitVec 32 →
          Except String (BitVec 64 × Memory))

def internal (front text : String) : Error :=
  .internal (front ++ text)

/- Everything up to the call of `alloc`. -/
def allocate
    (m : Module)
    (inputLen : BitVec 32) :
    Except Error (BitVec 32 × Memory) := do
  (m.setFuel).mapError (internal "Set fuel: ")
  (m.instantiate).mapError (internal "WASM instantiate: ")
  (m.start).mapError (internal "WASM start: ")
  let memory ←
    match m.memory with
    | none =>
      .error (.internal "WASM module has no memory export")
    | some memory => .ok memory
  let alloc ← (m.alloc).mapError (internal "No alloc export: ")
  (alloc memory inputLen).mapError (internal "alloc failed: ")

/- The error of a call that did not end well. -/
def callError (message : String) : Error :=
  if decide ("fuel".toList <:+: message.toList) then
    .internal "WASM function exceeded CPU fuel limit"
  else internal "WASM call error: " message

/- A pointer of 32 bits as an index: `ptr as usize`. -/
def asUsize (ptr : BitVec 32) : Nat :=
  (ptr.signExtend 64).toNat

/- `(packed >> 32) as usize` -/
def resultPtr (packed : BitVec 64) : Nat :=
  (packed.sshiftRight 32).toNat

/- `(packed & 0xFFFF_FFFF) as usize` -/
def resultLen (packed : BitVec 64) : Nat :=
  (packed &&& 0xFFFFFFFF#64).toNat

/- Unpack a result and read it. -/
def readResult
    (checked : Bool)
    (packed : BitVec 64)
    (memory : Memory) : Option (Except Error String) :=
  let ptr := resultPtr packed
  let len := resultLen packed
  (inRange checked memory.size ptr len).map (fun found =>
    if found then
      match decode (memory.slice ptr len) with
      | none => .error (.internal "Invalid UTF-8 from WASM")
      | some text => .ok text
    else
      .error (.internal "WASM memory read out of bounds"))

/-
  The memory with the input, once it is written, and what the
  caller gets: nothing if an overflow check ended the task.
-/
structure Execution where
  written : Option Memory
  result : Option (Except Error String)

/- Call the function on the memory with the input. -/
def callFunction
    (checked : Bool)
    (m : Module)
    (name : String)
    (ptr len : BitVec 32)
    (memory : Memory) : Option (Except Error String) :=
  match m.function name with
  | .error e =>
    some (.error (.internal
      ("Function '" ++ name ++ "' not found: " ++ e)))
  | .ok function =>
    match function memory ptr len with
    | .error e => some (.error (callError e))
    | .ok (packed, memory) =>
      readResult checked packed memory

def executeSync
    (checked : Bool)
    (m : Module)
    (name input : String) : Execution :=
  let bytes := bytesOf input
  let inputLen := BitVec.ofNat 32 bytes.length
  match allocate m inputLen with
  | .error e => ⟨none, some (.error e)⟩
  | .ok (ptr, memory) =>
    match inRange checked memory.size (asUsize ptr)
        bytes.length with
    | none => ⟨none, none⟩
    | some false =>
      ⟨none, some (.error (.internal
        "WASM memory write out of bounds"))⟩
    | some true =>
      let memory := memory.write (asUsize ptr) bytes
      ⟨some memory,
        callFunction checked m name ptr inputLen memory⟩

--------
-- Addresses
--------

/- What a sign extension makes of an unsigned address. -/
def widen (address : Nat) : Nat :=
  if address < 2 ^ 31 then address
  else address + (2 ^ 64 - 2 ^ 32)

theorem asUsize_eq (ptr : BitVec 32) :
    asUsize ptr = widen ptr.toNat := by
  have hBound := ptr.isLt
  rw [asUsize, widen, BitVec.toNat_signExtend,
    BitVec.msb_eq_decide, BitVec.toNat_setWidth]
  by_cases hLow : ptr.toNat < 2 ^ 31
  · rw [if_pos hLow, if_neg (by simpa using hLow)]
    omega
  · rw [if_neg hLow, if_pos (by simpa using hLow)]
    omega

/- The address and the length that a result packs. -/
def packedPtr (packed : BitVec 64) : Nat :=
  packed.toNat / 2 ^ 32

def packedLen (packed : BitVec 64) : Nat :=
  packed.toNat % 2 ^ 32

theorem packedPtr_lt (packed : BitVec 64) :
    packedPtr packed < 2 ^ 32 := by
  have hBound := packed.isLt
  rw [packedPtr]
  omega

theorem packedLen_lt (packed : BitVec 64) :
    packedLen packed < 2 ^ 32 :=
  Nat.mod_lt _ (by decide)

theorem resultLen_eq (packed : BitVec 64) :
    resultLen packed = packedLen packed := by
  rw [resultLen, packedLen, BitVec.toNat_and]
  exact Nat.and_two_pow_sub_one_eq_mod packed.toNat 32

theorem resultPtr_eq (packed : BitVec 64) :
    resultPtr packed = widen (packedPtr packed) := by
  have hBound := packed.isLt
  rw [resultPtr, widen, packedPtr, BitVec.toNat_sshiftRight,
    BitVec.msb_eq_decide, Nat.shiftRight_eq_div_pow,
    Nat.shiftRight_eq_div_pow]
  by_cases hLow : packed.toNat < 2 ^ 63
  · rw [if_neg (by simpa using hLow), if_pos (by omega)]
  · rw [if_pos (by simpa using hLow), if_neg (by omega)]
    omega

/- In the lower half of the addresses ranges are exact. -/
theorem inRange_low
    {checked : Bool}
    {size address len : Nat}
    (hLow : address < 2 ^ 31)
    (hLen : len < 2 ^ 32) :
    inRange checked size (widen address) len =
      some (decide (address + len ≤ size)) := by
  rw [inRange, addUsize, widen, if_pos hLow,
    if_pos (by omega), Option.map_some,
    decide_eq_true (Nat.le_add_right address len),
    Bool.true_and]

/- In the upper half no range is found. -/
theorem inRange_high
    {checked : Bool}
    {size address len : Nat}
    (hSize : size ≤ 2 ^ 32)
    (hHigh : 2 ^ 31 ≤ address)
    (hAddress : address < 2 ^ 32)
    (hLen : len < 2 ^ 32) :
    inRange checked size (widen address) len =
      if address + len < 2 ^ 32 then some false
      else if checked then none
      else some false := by
  rw [inRange, addUsize, widen, if_neg (by omega)]
  by_cases hFits : address + len < 2 ^ 32
  · rw [if_pos hFits, if_pos (by omega), Option.map_some]
    have hBehind :
        ¬ address + (2 ^ 64 - 2 ^ 32) + len ≤ size := by
      omega
    rw [decide_eq_false hBehind, Bool.and_false]
  · rw [if_neg hFits, if_neg (by omega)]
    cases checked with
    | true => rfl
    | false =>
      have hBefore :
          ¬ address + (2 ^ 64 - 2 ^ 32) ≤
            address + (2 ^ 64 - 2 ^ 32) + len - 2 ^ 64 := by
        omega
      rw [if_neg Bool.false_ne_true,
        if_neg Bool.false_ne_true, Option.map_some,
        decide_eq_false hBefore, Bool.false_and]

--------
-- The calling convention
--------

/- `alloc` gives an address of 32 bits and a memory. -/
def Allocates
    (m : Module)
    (input : String)
    (ptr : BitVec 32)
    (memory : Memory) : Prop :=
  allocate m (BitVec.ofNat 32 (bytesOf input).length) =
    .ok (ptr, memory)

/- The function is called with the input and gives a result. -/
def Returns
    (m : Module)
    (name input : String)
    (packed : BitVec 64)
    (after : Memory) : Prop :=
  ∃ ptr memory function, Allocates m input ptr memory ∧
      ptr.toNat + (bytesOf input).length ≤ memory.size ∧
      m.function name = .ok function ∧
      function (memory.write ptr.toNat (bytesOf input)) ptr
          (BitVec.ofNat 32 (bytesOf input).length) =
        .ok (packed, after)

/-
  The convention with unsigned addresses: the input is written
  where `alloc` says, the result is the text that it packs,
  what is outside the memory is an error, and no addition
  overflows.
-/
structure Conforms
    (checked : Bool)
    (m : Module)
    (name input : String) : Prop where
  finished :
    (executeSync checked m name input).result ≠ none
  written :
    ∀ ptr memory, Allocates m input ptr memory →
      ptr.toNat + (bytesOf input).length ≤ memory.size →
        (executeSync checked m name input).written =
          some (memory.write ptr.toNat (bytesOf input))
  unwritten :
    ∀ ptr memory, Allocates m input ptr memory →
      memory.size < ptr.toNat + (bytesOf input).length →
        ∃ e, (executeSync checked m name input).result =
          some (.error e)
  read :
    ∀ packed after, Returns m name input packed after →
      packedPtr packed + packedLen packed ≤ after.size →
        ∀ text,
          decode
              (after.slice (packedPtr packed)
                (packedLen packed)) = some text →
            (executeSync checked m name input).result =
              some (.ok text)
  unread :
    ∀ packed after, Returns m name input packed after →
      after.size < packedPtr packed + packedLen packed →
        ∃ e, (executeSync checked m name input).result =
          some (.error e)

/-
  The addresses are in the lower half, or what they name is
  refused anyway and ends below `2 ^ 32`.
-/
structure Addressable
    (m : Module)
    (name input : String) : Prop where
  pointer :
    ∀ ptr memory, Allocates m input ptr memory →
      ptr.toNat < 2 ^ 31 ∨
        (memory.size < ptr.toNat + (bytesOf input).length ∧
          ptr.toNat + (bytesOf input).length < 2 ^ 32)
  result :
    ∀ packed after, Returns m name input packed after →
      packedPtr packed < 2 ^ 31 ∨
        (packedPtr packed + packedLen packed < 2 ^ 32 ∧
          (packedPtr packed + packedLen packed ≤ after.size →
            decode
              (after.slice (packedPtr packed)
                (packedLen packed)) = none))

section

variable {checked : Bool} {m : Module} {name input : String}
variable {ptr : BitVec 32} {memory after : Memory}
variable {packed : BitVec 64}

theorem readResult_low
    (hLow : packedPtr packed < 2 ^ 31) :
    readResult checked packed memory = some
        (if packedPtr packed + packedLen packed ≤ memory.size
          then
            match decode
                (memory.slice (packedPtr packed)
                  (packedLen packed)) with
            | none =>
              .error (.internal "Invalid UTF-8 from WASM")
            | some text => .ok text
          else
            .error
              (.internal "WASM memory read out of bounds")) := by
  have hWiden : widen (packedPtr packed) = packedPtr packed :=
    if_pos hLow
  rw [readResult, resultPtr_eq, resultLen_eq,
    inRange_low hLow (packedLen_lt packed), hWiden]
  simp only [Option.map_some, decide_eq_true_eq]

theorem readResult_high
    (hHigh : 2 ^ 31 ≤ packedPtr packed) :
    readResult checked packed memory =
      if packedPtr packed + packedLen packed < 2 ^ 32 ∨
          checked = false then
        some (.error
          (.internal "WASM memory read out of bounds"))
      else none := by
  rw [readResult, resultPtr_eq, resultLen_eq,
    inRange_high memory.size_le hHigh (packedPtr_lt packed)
      (packedLen_lt packed)]
  by_cases hFits :
      packedPtr packed + packedLen packed < 2 ^ 32
  · rw [if_pos hFits, if_pos (Or.inl hFits)]
    rfl
  · cases checked with
    | true =>
      rw [if_neg hFits, if_pos rfl,
        if_neg (by simpa using hFits)]
      rfl
    | false =>
      rw [if_neg hFits, if_neg Bool.false_ne_true,
        if_pos (Or.inr rfl)]
      rfl

/- Below the middle the input is written as it should be. -/
theorem execute_low
    (hInput : (bytesOf input).length < 2 ^ 31)
    (hAlloc : Allocates m input ptr memory)
    (hLow : ptr.toNat < 2 ^ 31) :
    executeSync checked m name input =
      if ptr.toNat + (bytesOf input).length ≤ memory.size then
        ⟨some (memory.write ptr.toNat (bytesOf input)),
          callFunction checked m name ptr
            (BitVec.ofNat 32 (bytesOf input).length)
            (memory.write ptr.toNat (bytesOf input))⟩
      else
        ⟨none, some (.error (.internal
          "WASM memory write out of bounds"))⟩ := by
  have hWiden : widen ptr.toNat = ptr.toNat := if_pos hLow
  have hResult :
      allocate m (BitVec.ofNat 32 (bytesOf input).length) =
        .ok (ptr, memory) := hAlloc
  rw [executeSync, hResult]
  simp only [asUsize_eq, hWiden]
  have hRange :
      inRange checked memory.size ptr.toNat
          (bytesOf input).length =
        some (decide (ptr.toNat + (bytesOf input).length ≤
          memory.size)) := by
    have hLen : (bytesOf input).length < 2 ^ 32 := by omega
    have hExact :
        inRange checked memory.size (widen ptr.toNat)
          (bytesOf input).length = _ :=
      inRange_low hLow hLen
    rwa [hWiden] at hExact
  rw [hRange]
  by_cases hIn :
      ptr.toNat + (bytesOf input).length ≤ memory.size
  · rw [decide_eq_true hIn, if_pos hIn]
  · rw [decide_eq_false hIn, if_neg hIn]

/- Above the middle nothing is written. -/
theorem execute_high
    (hInput : (bytesOf input).length < 2 ^ 31)
    (hAlloc : Allocates m input ptr memory)
    (hHigh : 2 ^ 31 ≤ ptr.toNat) :
    executeSync checked m name input =
      if ptr.toNat + (bytesOf input).length < 2 ^ 32 ∨
          checked = false then
        ⟨none, some (.error (.internal
          "WASM memory write out of bounds"))⟩
      else ⟨none, none⟩ := by
  have hResult :
      allocate m (BitVec.ofNat 32 (bytesOf input).length) =
        .ok (ptr, memory) := hAlloc
  rw [executeSync, hResult]
  simp only [asUsize_eq]
  rw [inRange_high memory.size_le hHigh ptr.isLt (by omega)]
  by_cases hFits :
      ptr.toNat + (bytesOf input).length < 2 ^ 32
  · rw [if_pos hFits, if_pos (Or.inl hFits)]
  · cases checked with
    | true =>
      rw [if_neg hFits, if_pos rfl,
        if_neg (by simpa using hFits)]
    | false =>
      rw [if_neg hFits, if_neg Bool.false_ne_true,
        if_pos (Or.inr rfl)]

/- A result that is reached is read. -/
theorem result_of_returns
    (hInput : (bytesOf input).length < 2 ^ 31)
    (hReturns : Returns m name input packed after)
    (hPointer :
      ∀ ptr memory, Allocates m input ptr memory →
        ptr.toNat + (bytesOf input).length ≤ memory.size →
          ptr.toNat < 2 ^ 31) :
    (executeSync checked m name input).result =
      readResult checked packed after := by
  rcases hReturns with
    ⟨ptr, memory, function, hAlloc, hIn, hFunction, hCall⟩
  rw [execute_low hInput hAlloc (hPointer ptr memory hAlloc
    hIn), if_pos hIn]
  simp only [callFunction, hFunction, hCall]

/- A call ends in a result that is read or in an error. -/
theorem callFunction_cases
    (len : BitVec 32) :
    (∃ e, callFunction checked m name ptr len memory =
        some (.error e)) ∨
      ∃ function packed after,
        m.function name = .ok function ∧
          function memory ptr len = .ok (packed, after) ∧
          callFunction checked m name ptr len memory =
            readResult checked packed after := by
  unfold callFunction
  cases hFunction : m.function name with
  | error e => exact Or.inl ⟨_, rfl⟩
  | ok function =>
    cases hCall : function memory ptr len with
    | error e =>
      simp only [hCall]
      exact Or.inl ⟨_, rfl⟩
    | ok result =>
      rcases result with ⟨packed, after⟩
      simp only [hCall]
      exact Or.inr ⟨function, packed, after, rfl, hCall,
        rfl⟩

/- Addresses of a run that conforms in a checked build. -/
theorem addressable_of_conforms
    (hInput : (bytesOf input).length < 2 ^ 31)
    (hConforms : Conforms true m name input) :
    Addressable m name input := by
  have hPointer :
      ∀ ptr memory, Allocates m input ptr memory →
        ptr.toNat < 2 ^ 31 ∨ (memory.size <
              ptr.toNat + (bytesOf input).length ∧
            ptr.toNat + (bytesOf input).length < 2 ^ 32) := by
    intro ptr memory hAlloc
    rcases Nat.lt_or_ge ptr.toNat (2 ^ 31) with hLow | hHigh
    · exact Or.inl hLow
    · have hRun :
          executeSync true m name input =
            if ptr.toNat + (bytesOf input).length < 2 ^ 32 ∨
                true = false then
              ⟨none, some (.error _)⟩
            else ⟨none, none⟩ :=
        execute_high hInput hAlloc hHigh
      have hFits :
          ptr.toNat + (bytesOf input).length < 2 ^ 32 := by
        by_contra hOver
        rw [if_neg (by simpa using hOver)] at hRun
        exact hConforms.finished (by rw [hRun])
      refine Or.inr ⟨?_, hFits⟩
      by_contra hIn
      have hWritten := hConforms.written ptr memory hAlloc
        (by omega)
      rw [hRun, if_pos (Or.inl hFits)] at hWritten
      cases hWritten
  refine ⟨hPointer, ?_⟩
  intro packed after hReturns
  rcases Nat.lt_or_ge (packedPtr packed) (2 ^ 31) with
    hLow | hHigh
  · exact Or.inl hLow
  · have hRun :
        (executeSync true m name input).result =
          readResult true packed after := by
      apply result_of_returns hInput hReturns
      intro ptr memory hAlloc hIn
      rcases hPointer ptr memory hAlloc with
        hLow | ⟨hOut, _⟩
      · exact hLow
      · omega
    rw [readResult_high hHigh] at hRun
    have hFits :
        packedPtr packed + packedLen packed < 2 ^ 32 := by
      by_contra hOver
      rw [if_neg (by simpa using hOver)] at hRun
      exact hConforms.finished hRun
    refine Or.inr ⟨hFits, ?_⟩
    intro hIn
    by_contra hSome
    rcases Option.ne_none_iff_exists'.mp hSome with
      ⟨text, hText⟩
    have hRead :=
      hConforms.read packed after hReturns hIn text hText
    rw [hRun, if_pos (Or.inl hFits)] at hRead
    cases hRead

/- A pointer in the upper half is refused in every build. -/
theorem conforms_of_refused
    (hInput : (bytesOf input).length < 2 ^ 31)
    (hAlloc : Allocates m input ptr memory)
    (hHigh : 2 ^ 31 ≤ ptr.toNat)
    (hOut :
      memory.size < ptr.toNat + (bytesOf input).length)
    (hFits :
      ptr.toNat + (bytesOf input).length < 2 ^ 32) :
    Conforms checked m name input := by
  have hRun :
      executeSync checked m name input =
        ⟨none, some (.error _)⟩ :=
    (execute_high hInput hAlloc hHigh).trans
      (if_pos (Or.inl hFits))
  have hOnly :
      ∀ other place, Allocates m input other place →
        other = ptr ∧ place = memory := by
    intro other place hOther
    rw [Allocates] at hAlloc hOther
    rw [hAlloc] at hOther
    cases hOther
    exact ⟨rfl, rfl⟩
  have hNever :
      ∀ packed after,
        ¬ Returns m name input packed after := by
    rintro packed after ⟨other, place, _, hOther, hIn, _⟩
    rcases hOnly other place hOther with ⟨rfl, rfl⟩
    omega
  refine ⟨?_, ?_, ?_, ?_, ?_⟩
  · rw [hRun]
    exact Option.some_ne_none _
  · intro other place hOther hIn
    rcases hOnly other place hOther with ⟨rfl, rfl⟩
    omega
  · intro _ _ _ _
    rw [hRun]
    exact ⟨_, rfl⟩
  · intro packed after hReturns
    exact absurd hReturns (hNever packed after)
  · intro packed after hReturns
    exact absurd hReturns (hNever packed after)

/- What is read of a result in reach, or not in reach. -/
theorem readResult_of_addressable
    (hAddress :
      packedPtr packed < 2 ^ 31 ∨
        (packedPtr packed + packedLen packed < 2 ^ 32 ∧
          (packedPtr packed + packedLen packed ≤ after.size →
            decode (after.slice (packedPtr packed)
                (packedLen packed)) = none))) :
    readResult checked packed after ≠ none ∧
      (packedPtr packed + packedLen packed ≤ after.size →
        ∀ text, decode (after.slice (packedPtr packed)
                (packedLen packed)) = some text →
            readResult checked packed after =
              some (.ok text)) ∧
      (after.size < packedPtr packed + packedLen packed →
        ∃ e, readResult checked packed after =
          some (.error e)) := by
  rcases Nat.lt_or_ge (packedPtr packed) (2 ^ 31) with
    hLow | hHigh
  · rw [readResult_low hLow]
    refine ⟨Option.some_ne_none _, ?_, ?_⟩
    · intro hIn text hText
      rw [if_pos hIn, hText]
    · intro hOut
      rw [if_neg (by omega)]
      exact ⟨_, rfl⟩
  · rcases hAddress with hLow | ⟨hFits, hBroken⟩
    · omega
    · rw [readResult_high hHigh, if_pos (Or.inl hFits)]
      refine ⟨Option.some_ne_none _, ?_, ?_⟩
      · intro hIn text hText
        rw [hBroken hIn] at hText
        cases hText
      · intro _
        exact ⟨_, rfl⟩

/- A pointer in the lower half is used as it should be. -/
theorem conforms_of_low
    (hInput : (bytesOf input).length < 2 ^ 31)
    (hAlloc : Allocates m input ptr memory)
    (hLow : ptr.toNat < 2 ^ 31)
    (hAddress : Addressable m name input) :
    Conforms checked m name input := by
  have hRun : executeSync checked m name input = _ :=
    execute_low hInput hAlloc hLow
  have hOnly :
      ∀ other place, Allocates m input other place →
        other = ptr ∧ place = memory := by
    intro other place hOther
    rw [Allocates] at hAlloc hOther
    rw [hAlloc] at hOther
    cases hOther
    exact ⟨rfl, rfl⟩
  have hPointer :
      ∀ other place, Allocates m input other place →
        other.toNat + (bytesOf input).length ≤ place.size →
          other.toNat < 2 ^ 31 := by
    intro other place hOther _
    rw [(hOnly other place hOther).1]
    exact hLow
  refine ⟨?_, ?_, ?_, ?_, ?_⟩
  · rw [hRun]
    by_cases hIn :
        ptr.toNat + (bytesOf input).length ≤ memory.size
    · rw [if_pos hIn]
      rcases callFunction_cases
          (BitVec.ofNat 32 (bytesOf input).length) with
        ⟨e, hError⟩ | ⟨function, packed, after, hFunction,
          hCall, hRead⟩
      · rw [hError]
        exact Option.some_ne_none _
      · rw [hRead]
        exact (readResult_of_addressable (hAddress.result
          packed after ⟨ptr, memory, function, hAlloc, hIn,
            hFunction, hCall⟩)).1
    · rw [if_neg hIn]
      exact Option.some_ne_none _
  · intro other place hOther hIn
    rcases hOnly other place hOther with ⟨rfl, rfl⟩
    rw [hRun, if_pos hIn]
  · intro other place hOther hOut
    rcases hOnly other place hOther with ⟨rfl, rfl⟩
    rw [hRun, if_neg (by omega)]
    exact ⟨_, rfl⟩
  · intro packed after hReturns hIn text hText
    rw [result_of_returns hInput hReturns hPointer]
    exact (readResult_of_addressable
      (hAddress.result packed after hReturns)).2.1 hIn text
        hText
  · intro packed after hReturns hOut
    rw [result_of_returns hInput hReturns hPointer]
    exact (readResult_of_addressable
      (hAddress.result packed after hReturns)).2.2 hOut

end

/-
  The calling convention is kept in every build exactly if the
  module keeps to addresses in the lower half, but for those
  that are refused anyway without an overflow.
-/
theorem execute_conforms_iff
    (m : Module)
    (name input : String)
    (hInput : input.utf8ByteSize < 2 ^ 31) :
    (∀ checked, Conforms checked m name input) ↔
      Addressable m name input := by
  have hLength : (bytesOf input).length < 2 ^ 31 := hInput
  constructor
  · intro hConforms
    exact addressable_of_conforms hLength (hConforms true)
  · intro hAddress checked
    cases hAlloc :
        allocate m
          (BitVec.ofNat 32 (bytesOf input).length) with
    | error e =>
      have hNever :
          ∀ ptr memory, ¬ Allocates m input ptr memory := by
        intro ptr memory hOther
        rw [Allocates, hAlloc] at hOther
        cases hOther
      have hRun :
          (executeSync checked m name input).result =
            some (.error e) := by
        rw [executeSync, hAlloc]
      refine ⟨?_, ?_, ?_, ?_, ?_⟩
      · rw [hRun]
        exact Option.some_ne_none _
      · intro ptr memory hOther
        exact absurd hOther (hNever ptr memory)
      · intro ptr memory hOther
        exact absurd hOther (hNever ptr memory)
      · rintro packed after ⟨ptr, memory, _, hOther, _⟩
        exact absurd hOther (hNever ptr memory)
      · rintro packed after ⟨ptr, memory, _, hOther, _⟩
        exact absurd hOther (hNever ptr memory)
    | ok result =>
      rcases result with ⟨ptr, memory⟩
      rcases Nat.lt_or_ge ptr.toNat (2 ^ 31) with
        hLow | hHigh
      · exact conforms_of_low hLength hAlloc hLow hAddress
      · rcases hAddress.pointer ptr memory hAlloc with
          hLow | ⟨hOut, hFits⟩
        · omega
        · exact conforms_of_refused hLength hAlloc hHigh
            hOut hFits

/- A module that answers with its input, from a fixed place. -/
def echo (memory : Memory) (place : BitVec 32) : Module where
  setFuel := .ok ()
  instantiate := .ok ()
  start := .ok ()
  memory := some memory
  alloc := .ok (fun memory _ => .ok (place, memory))
  function := fun _ =>
    .ok (fun memory ptr len =>
      .ok ((ptr.setWidth 64 <<< 32) ||| len.setWidth 64,
        memory))

def onePage : Memory where
  bytes := List.replicate 65536 0
  bound := by
    rw [List.length_replicate]
    decide

def wholeSpace : Memory where
  bytes := List.replicate (2 ^ 32) 0
  bound := (List.length_replicate).le

theorem execute_conforms_echo :
    Conforms true (echo onePage 1024) "process" "hello" ∧
      Conforms false (echo onePage 1024) "process"
        "hello" := by
  have hAll := (execute_conforms_iff (echo onePage 1024)
    "process" "hello" (by decide)).mpr ⟨by
      rintro ptr memory hAlloc
      cases hAlloc
      exact Or.inl (by decide), by
      rintro packed after ⟨ptr, memory, function, hAlloc, _,
        hFunction, hCall⟩
      cases hAlloc
      cases hFunction
      cases hCall
      exact Or.inl (by decide)⟩
  exact ⟨hAll true, hAll false⟩

/- The same module with its buffer above two gigabytes. -/
theorem execute_upper_half :
    ¬ Conforms false (echo wholeSpace 0x80000000)
      "process" "a" := by
  intro hConforms
  have hAlloc :
      Allocates (echo wholeSpace 0x80000000) "a" 0x80000000
        wholeSpace := rfl
  have hSize : wholeSpace.size = 2 ^ 32 :=
    List.length_replicate
  have hWritten := hConforms.written _ _ hAlloc
    (by rw [hSize]; decide)
  rw [execute_high (by decide) hAlloc (by decide)] at hWritten
  rw [if_pos (Or.inr rfl)] at hWritten
  cases hWritten

end Orignabase.Functions
