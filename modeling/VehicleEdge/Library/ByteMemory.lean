import Mathlib.Algebra.Order.Ring.Nat
import Mathlib.Data.List.Basic
import Mathlib.Data.List.Induction
import Mathlib.Logic.Function.Basic

/-
This file contains flat byte memory, lists of byte stores, and little-endian words.
-/

namespace VehicleEdge

/-- A memory gives one byte for each address. -/
abbrev Memory := Nat → UInt8

/-- A store writes a byte or copies a byte of the memory. -/
inductive Store where
  | put (index : Nat) (byte : UInt8)
  | move (index source : Nat)
  deriving DecidableEq, Repr

namespace Store

/-- The address that a store writes. -/
def index : Store → Nat
  | .put index _ => index
  | .move index _ => index

def apply (memory : Memory) : Store → Memory
  | .put index byte => Function.update memory index byte
  | .move index source => Function.update memory index (memory source)

/-- The stores run in order. -/
def run (memory : Memory) (stores : List Store) : Memory := stores.foldl apply memory

/-- Some store of the list writes the address. -/
def touches (stores : List Store) (index : Nat) : Bool := stores.any fun store => store.index == index

/-- A list of bytes goes to consecutive addresses. -/
def putBytes (base : Nat) : List UInt8 → List Store
  | [] => []
  | byte :: bytes => .put base byte :: putBytes (base + 1) bytes

@[simp] theorem run_nil (memory : Memory) : run memory [] = memory := rfl

@[simp] theorem run_cons (memory : Memory) (store : Store) (stores : List Store) :
    run memory (store :: stores) = run (store.apply memory) stores := rfl

theorem run_append (memory : Memory) (first second : List Store) :
    run memory (first ++ second) = run (run memory first) second :=
  List.foldl_append

@[simp] theorem length_putBytes (base : Nat) (bytes : List UInt8) :
    (putBytes base bytes).length = bytes.length := by
  induction bytes generalizing base with
  | nil => rfl
  | cons byte bytes ih => rw [putBytes, List.length_cons, List.length_cons, ih]

theorem touches_cons (store : Store) (stores : List Store) (index : Nat) :
    touches (store :: stores) index = (store.index == index || touches stores index) := rfl

theorem touches_append (first second : List Store) (index : Nat) :
    touches (first ++ second) index = (touches first index || touches second index) :=
  List.any_append

theorem apply_of_ne (memory : Memory) {store : Store} {index : Nat} (other : index ≠ store.index) :
    store.apply memory index = memory index := by
  cases store <;> exact Function.update_of_ne other _ _

/-- An address that no store writes keeps its byte. -/
theorem run_untouched (memory : Memory) {stores : List Store} {index : Nat}
    (untouched : touches stores index = false) : run memory stores index = memory index := by
  induction stores generalizing memory with
  | nil => rfl
  | cons store stores ih =>
      simp only [touches_cons, Bool.or_eq_false_iff, beq_eq_false_iff_ne] at untouched
      rw [run_cons, ih _ untouched.2, apply_of_ne memory (Ne.symm untouched.1)]

theorem putBytes_range (base count : Nat) (byte : Nat → UInt8) :
    putBytes base ((List.range count).map byte) =
      (List.range count).map fun step => .put (base + step) (byte step) := by
  induction count generalizing base byte with
  | zero => rfl
  | succ count ih =>
      rw [List.range_succ_eq_map, List.map_cons, List.map_map, putBytes, ih, List.map_cons, List.map_map]
      congr 1
      apply List.map_congr_left
      intro step _
      show put (base + 1 + step) (byte (step + 1)) = put (base + (step + 1)) (byte (step + 1))
      rw [Nat.add_assoc, Nat.add_comm 1 step]

/-- The consecutive stores touch exactly their own range. -/
theorem touches_putBytes (base : Nat) (bytes : List UInt8) (index : Nat) :
    touches (putBytes base bytes) index = decide (base ≤ index ∧ index < base + bytes.length) := by
  induction bytes generalizing base with
  | nil => simp [putBytes, touches]
  | cons byte bytes ih =>
      rw [putBytes, touches_cons, ih, Bool.eq_iff_iff]
      simp only [Store.index, Bool.or_eq_true, beq_iff_eq, decide_eq_true_eq, List.length_cons]
      omega

/-- The consecutive stores leave the bytes of the list in their range. -/
theorem run_putBytes (memory : Memory) (base : Nat) (bytes : List UInt8) {lane : Nat}
    (inside : lane < bytes.length) : run memory (putBytes base bytes) (base + lane) = bytes[lane] := by
  induction bytes generalizing memory base lane with
  | nil => cases inside
  | cons byte bytes ih =>
      rw [putBytes, run_cons]
      cases lane with
      | zero =>
          rw [run_untouched]
          · exact Function.update_self base byte memory
          · rw [touches_putBytes]
            simp
      | succ lane =>
          have rest := ih (Store.apply memory (.put base byte)) (base + 1)
            (Nat.lt_of_succ_lt_succ inside)
          rw [show base + (lane + 1) = base + 1 + lane by omega]
          exact rest

/-- The range of consecutive stores reads back as the list. -/
theorem map_run_putBytes (memory : Memory) (base : Nat) (bytes : List UInt8) :
    (List.range' base bytes.length).map (run memory (putBytes base bytes)) = bytes := by
  apply List.ext_getElem
  · simp
  · intro lane _ inside
    simpa using run_putBytes memory base bytes inside

/-- Every store of the list writes below the bound. -/
def Inside (bound : Nat) (stores : List Store) : Prop := ∀ store ∈ stores, store.index < bound

@[simp] theorem inside_nil (bound : Nat) : Inside bound [] := nofun

@[simp] theorem inside_cons {bound : Nat} {store : Store} {stores : List Store} :
    Inside bound (store :: stores) ↔ store.index < bound ∧ Inside bound stores :=
  List.forall_mem_cons

@[simp] theorem inside_append {bound : Nat} {first second : List Store} :
    Inside bound (first ++ second) ↔ Inside bound first ∧ Inside bound second :=
  List.forall_mem_append

theorem inside_flatMap {bound : Nat} {Entry : Type} {entries : List Entry}
    {stores : Entry → List Store} :
    Inside bound (entries.flatMap stores) ↔ ∀ entry ∈ entries, Inside bound (stores entry) := by
  simp only [Inside, List.mem_flatMap]
  constructor
  · intro inside entry member store stored
    exact inside store ⟨entry, member, stored⟩
  · rintro inside store ⟨entry, member, stored⟩
    exact inside entry member store stored

/-- Consecutive stores stay below the bound when there are none or the last one does. -/
theorem inside_putBytes {bound base : Nat} {bytes : List UInt8} :
    Inside bound (putBytes base bytes) ↔ bytes.length = 0 ∨ base + bytes.length ≤ bound := by
  induction bytes generalizing base with
  | nil => simp [putBytes]
  | cons byte bytes ih =>
      rw [putBytes, inside_cons, ih]
      simp only [Store.index, List.length_cons]
      omega

/-- Every store of the list writes from the base up to the bound. -/
def Within (base bound : Nat) (stores : List Store) : Prop :=
  ∀ store ∈ stores, base ≤ store.index ∧ store.index < bound

@[simp] theorem within_nil (base bound : Nat) : Within base bound [] := nofun

@[simp] theorem within_cons {base bound : Nat} {store : Store} {stores : List Store} :
    Within base bound (store :: stores) ↔
      (base ≤ store.index ∧ store.index < bound) ∧ Within base bound stores :=
  List.forall_mem_cons

@[simp] theorem within_append {base bound : Nat} {first second : List Store} :
    Within base bound (first ++ second) ↔ Within base bound first ∧ Within base bound second :=
  List.forall_mem_append

theorem within_putBytes {base bound start : Nat} {bytes : List UInt8} (above : base ≤ start)
    (below : start + bytes.length ≤ bound) : Within base bound (putBytes start bytes) := by
  induction bytes generalizing start with
  | nil => exact within_nil base bound
  | cons byte bytes ih =>
      rw [List.length_cons] at below
      rw [putBytes, within_cons]
      exact ⟨⟨above, show start < bound by omega⟩, ih (by omega) (by omega)⟩

/-- An address outside the range is not written. -/
theorem Within.untouched {base bound index : Nat} {stores : List Store} (within : Within base bound stores)
    (outside : ¬ (base ≤ index ∧ index < bound)) : touches stores index = false := by
  rw [touches, List.any_eq_false]
  intro store member same
  rw [beq_iff_eq] at same
  exact outside (same ▸ within store member)

section Relocation

/-- A shifted store reads and writes the same distance behind its old addresses. -/
def shift (distance : Nat) : Store → Store
  | .put index byte => .put (distance + index) byte
  | .move index source => .move (distance + index) (distance + source)

theorem shift_putBytes (distance base : Nat) (bytes : List UInt8) :
    (putBytes base bytes).map (shift distance) = putBytes (distance + base) bytes := by
  induction bytes generalizing base with
  | nil => rfl
  | cons byte bytes ih => rw [putBytes, putBytes, List.map_cons, ih, Nat.add_assoc]; rfl

theorem apply_shift (distance : Nat) (memory : Memory) (store : Store) (lane : Nat) :
    (store.shift distance).apply memory (distance + lane) =
      store.apply (fun index => memory (distance + index)) lane := by
  cases store with
  | put index byte => simp [shift, apply, Function.update_apply]
  | move index source => simp [shift, apply, Function.update_apply]

/-- Shifted stores leave the bytes of the list at the shifted addresses. -/
theorem run_shift (distance : Nat) (memory : Memory) (stores : List Store) (lane : Nat) :
    run memory (stores.map (shift distance)) (distance + lane) =
      run (fun index => memory (distance + index)) stores lane := by
  induction stores generalizing memory with
  | nil => rfl
  | cons store stores ih =>
      rw [List.map_cons, run_cons, run_cons, ih]
      congr 1
      funext index
      exact apply_shift distance memory store index

end Relocation

section Isolation

/-- The bytes that such a list writes do not depend on the memory before it. -/
def SelfContained (stores : List Store) : Prop :=
  ∀ memory other : Memory, ∀ index, touches stores index = true →
    run memory stores index = run other stores index

def isPut : Store → Bool
  | .put _ _ => true
  | .move _ _ => false

@[simp] theorem all_isPut_putBytes (base : Nat) (bytes : List UInt8) :
    (putBytes base bytes).all isPut = true := by
  induction bytes generalizing base with
  | nil => rfl
  | cons byte bytes ih => rw [putBytes, List.all_cons, ih]; rfl

theorem selfContained_of_puts {stores : List Store} (puts : stores.all isPut = true) :
    SelfContained stores := by
  intro memory other index touched
  induction stores generalizing memory other with
  | nil => simp [touches] at touched
  | cons store stores ih =>
      rw [List.all_cons, Bool.and_eq_true] at puts
      rw [run_cons, run_cons]
      by_cases later : touches stores index = true
      · exact ih puts.2 _ _ later
      · rw [Bool.not_eq_true] at later
        have here : store.index = index := by simpa [touches_cons, later] using touched
        rw [run_untouched _ later, run_untouched _ later]
        cases store with
        | put target byte =>
            subst here
            simp [apply, Store.index]
        | move target source => cases puts.1

/-- Lists that share no address and read only their own bytes can be exchanged. -/
theorem SelfContained.run_comm {first second : List Store} (firstContained : SelfContained first)
    (secondContained : SelfContained second)
    (disjoint : ∀ index, touches first index = false ∨ touches second index = false) (memory : Memory) :
    run (run memory first) second = run (run memory second) first := by
  funext index
  cases inSecond : touches second index with
  | true =>
      have notFirst : touches first index = false := (disjoint index).resolve_right (by simp [inSecond])
      rw [run_untouched (run memory second) notFirst]
      exact secondContained _ _ index inSecond
  | false =>
      rw [run_untouched (run memory first) inSecond]
      cases inFirst : touches first index with
      | true => exact firstContained _ _ index inFirst
      | false => rw [run_untouched _ inFirst, run_untouched _ inFirst, run_untouched _ inSecond]

variable {Entry : Type}

/-- A split of a list at an entry is at its last entry or in front of it. -/
theorem concat_split {entries before after : List Entry} {last entry : Entry}
    (split : entries ++ [last] = before ++ entry :: after) :
    (entries = before ∧ last = entry ∧ after = []) ∨
      ∃ middle, entries = before ++ entry :: middle ∧ after = middle ++ [last] := by
  rcases List.eq_nil_or_concat' after with rfl | ⟨middle, final, rfl⟩
  · obtain ⟨front, same⟩ := List.append_inj' split rfl
    exact .inl ⟨front, List.singleton_inj.mp same, rfl⟩
  · rw [← List.cons_append, ← List.append_assoc] at split
    obtain ⟨front, same⟩ := List.append_inj' split rfl
    exact .inr ⟨middle, front, by rw [same]⟩

variable (stores : Entry → List Store) (dropped : Entry → Bool)

/-- A dropped entry stores nothing. -/
def kept (entry : Entry) : List Store := if dropped entry then [] else stores entry

/-- Every change that a dropped entry makes at the address is overwritten by a later entry. -/
def Overwritten (memory : Memory) (index : Nat) (entries : List Entry) : Prop :=
  ∀ before entry after, entries = before ++ entry :: after → dropped entry = true →
    run (run memory (before.flatMap (kept stores dropped))) (stores entry) index ≠
      run memory (before.flatMap (kept stores dropped)) index →
    touches (after.flatMap stores) index = true

theorem overwritten_concat_touched (memory : Memory) {index : Nat} (entries : List Entry) {last : Entry}
    (touched : touches (stores last) index = true) :
    Overwritten stores dropped memory index (entries ++ [last]) ↔
      (dropped last = true →
        run (run memory (entries.flatMap (kept stores dropped))) (stores last) index =
          run memory (entries.flatMap (kept stores dropped)) index) := by
  constructor
  · intro overwritten isDropped
    by_contra changed
    simpa [touches] using overwritten entries last [] rfl isDropped changed
  · intro unchanged before entry after split isDropped changed
    rcases concat_split split with ⟨rfl, rfl, rfl⟩ | ⟨middle, rfl, rfl⟩
    · exact absurd (unchanged isDropped) changed
    · rw [List.flatMap_append, List.flatMap_singleton, touches_append, touched, Bool.or_true]

theorem overwritten_concat_untouched (memory : Memory) {index : Nat} (entries : List Entry)
    {last : Entry} (untouched : touches (stores last) index = false) :
    Overwritten stores dropped memory index (entries ++ [last]) ↔
      Overwritten stores dropped memory index entries := by
  constructor
  · intro overwritten before entry after split isDropped changed
    have covered := overwritten before entry (after ++ [last]) (by simp [split]) isDropped changed
    rwa [List.flatMap_append, List.flatMap_singleton, touches_append, untouched, Bool.or_false] at covered
  · intro overwritten before entry after split isDropped changed
    rcases concat_split split with ⟨rfl, rfl, rfl⟩ | ⟨middle, rfl, rfl⟩
    · exact absurd (run_untouched _ untouched) changed
    · rw [List.flatMap_append, touches_append, overwritten before entry middle rfl isDropped changed,
        Bool.true_or]

theorem run_kept (memory : Memory) {index : Nat} {entry : Entry}
    (untouched : touches (stores entry) index = false) :
    run memory (kept stores dropped entry) index = memory index := by
  unfold kept
  split
  · rfl
  · exact run_untouched memory untouched

/-- Dropping entries is invisible at an address exactly when their changes there are overwritten. -/
theorem run_flatMap_eq_iff (memory : Memory) (index : Nat) (entries : List Entry)
    (contained : ∀ entry ∈ entries, SelfContained (stores entry)) :
    run memory (entries.flatMap stores) index =
        run memory (entries.flatMap (kept stores dropped)) index ↔
      Overwritten stores dropped memory index entries := by
  -- the induction removes the last entry, which decides the byte when it stores it
  induction entries using List.reverseRecOn with
  | nil => simp [Overwritten]
  | append_singleton entries last ih =>
      have lastContained := contained last (by simp)
      rw [List.flatMap_append, List.flatMap_append, run_append, run_append,
        List.flatMap_singleton, List.flatMap_singleton]
      cases touched : touches (stores last) index with
      | true =>
          rw [overwritten_concat_touched stores dropped memory entries touched]
          have same := lastContained (run memory (entries.flatMap stores))
            (run memory (entries.flatMap (kept stores dropped))) index touched
          cases isDropped : dropped last with
          | true => simp [kept, isDropped, same]
          | false => simp [kept, isDropped, same]
      | false =>
          rw [overwritten_concat_untouched stores dropped memory entries touched,
            run_untouched _ touched, run_kept stores dropped _ touched]
          exact ih fun entry member => contained entry (List.mem_append_left _ member)

end Isolation

end Store

/-- A copy of `count` bytes reads past the end of a shorter source. -/
def copiedBytes (source : List UInt8) (past : Nat → UInt8) (count : Nat) : List UInt8 :=
  (List.range count).map fun lane => source.getD lane (past lane)

@[simp] theorem length_copiedBytes (source : List UInt8) (past : Nat → UInt8) (count : Nat) :
    (copiedBytes source past count).length = count := by
  simp [copiedBytes]

/-- The little-endian bytes of a number drop everything above the width. -/
def littleEndian : Nat → Nat → List UInt8
  | 0, _ => []
  | width + 1, number => UInt8.ofNat number :: littleEndian width (number / 256)

/-- A list of bytes is read as a number from its least significant byte. -/
def ofLittleEndian : List UInt8 → Nat
  | [] => 0
  | byte :: bytes => byte.toNat + 256 * ofLittleEndian bytes

/-- A list of bytes is read as a number from its most significant byte. -/
def ofBigEndian (bytes : List UInt8) : Nat := bytes.foldl (fun number byte => 256 * number + byte.toNat) 0

@[simp] theorem length_littleEndian (width number : Nat) : (littleEndian width number).length = width := by
  induction width generalizing number with
  | zero => rfl
  | succ width ih => simp [littleEndian, ih]

/-- A narrow word depends on the low bytes of the number only. -/
theorem littleEndian_mod {width bound : Nat} (number : Nat) (narrow : width ≤ bound) :
    littleEndian width (number % 256 ^ bound) = littleEndian width number := by
  induction width generalizing number bound with
  | zero => rfl
  | succ width ih =>
      obtain ⟨bound, rfl⟩ : ∃ smaller, bound = smaller + 1 := ⟨bound - 1, by omega⟩
      have narrower : width ≤ bound := by omega
      rw [littleEndian, littleEndian, Nat.pow_succ', Nat.mod_mul_right_div_self, ih (number / 256) narrower]
      congr 1
      apply UInt8.toNat_inj.mp
      rw [UInt8.toNat_ofNat', UInt8.toNat_ofNat']
      exact Nat.mod_mul_right_mod number 256 _

/-- A shorter copy of a little-endian word takes its low bytes. -/
theorem copiedBytes_littleEndian {count width : Nat} (past : Nat → UInt8) (number : Nat)
    (narrow : count ≤ width) :
    copiedBytes (littleEndian width number) past count = littleEndian count number := by
  induction count generalizing width number past with
  | zero => rfl
  | succ count ih =>
      obtain ⟨width, rfl⟩ := Nat.exists_eq_add_of_lt (Nat.lt_of_lt_of_le (Nat.zero_lt_succ count) narrow)
      have narrower : count ≤ width := by omega
      have rest := ih (fun lane => past (lane + 1)) (number / 256) narrower
      rw [Nat.zero_add, littleEndian, littleEndian, ← rest]
      simp [copiedBytes, List.range_succ_eq_map, Function.comp_def]

/-- Reading the little-endian bytes gives the number modulo the width. -/
theorem ofLittleEndian_littleEndian (width number : Nat) :
    ofLittleEndian (littleEndian width number) = number % 256 ^ width := by
  induction width generalizing number with
  | zero => simp [littleEndian, ofLittleEndian, Nat.mod_one]
  | succ width ih =>
      rw [littleEndian, ofLittleEndian, ih, Nat.pow_succ', Nat.mod_mul]
      rfl

theorem ofLittleEndian_lt (bytes : List UInt8) : ofLittleEndian bytes < 256 ^ bytes.length := by
  induction bytes with
  | nil => exact Nat.one_pos
  | cons byte bytes ih =>
      have bound := byte.toNat_lt
      rw [ofLittleEndian, List.length_cons, Nat.pow_succ']
      omega

/-- Byte lists of one length are determined by the number that they read as. -/
theorem ofLittleEndian_inj {first second : List UInt8} (length : first.length = second.length) :
    ofLittleEndian first = ofLittleEndian second ↔ first = second := by
  constructor
  · intro same
    induction first generalizing second with
    | nil => exact (List.length_eq_zero_iff.mp length.symm).symm
    | cons byte bytes ih =>
        cases second with
        | nil => cases length
        | cons other others =>
            have bound := byte.toNat_lt
            have otherBound := other.toNat_lt
            simp only [ofLittleEndian] at same
            have rest : ofLittleEndian bytes = ofLittleEndian others := by omega
            rw [ih (Nat.succ.inj length) rest, UInt8.toNat_inj.mp (by omega : byte.toNat = other.toNat)]
  · rintro rfl
    rfl

/-- The two readings take the bytes in opposite orders. -/
theorem ofBigEndian_eq (bytes : List UInt8) : ofBigEndian bytes = ofLittleEndian bytes.reverse := by
  induction bytes using List.reverseRecOn with
  | nil => rfl
  | append_singleton bytes byte ih =>
      rw [List.reverse_append, List.reverse_singleton, List.singleton_append, ofLittleEndian, ← ih,
        ofBigEndian, ofBigEndian, List.foldl_append, List.foldl_cons, List.foldl_nil, Nat.add_comm]

theorem ofBigEndian_lt (bytes : List UInt8) : ofBigEndian bytes < 256 ^ bytes.length := by
  rw [ofBigEndian_eq, ← List.length_reverse]
  exact ofLittleEndian_lt bytes.reverse

/-- The two readings agree exactly on a palindrome. -/
theorem ofLittleEndian_eq_ofBigEndian (bytes : List UInt8) :
    ofLittleEndian bytes = ofBigEndian bytes ↔ bytes.reverse = bytes := by
  rw [ofBigEndian_eq, ofLittleEndian_inj List.length_reverse.symm, eq_comm]

/-- Reading the bytes backwards gives the number back exactly when they are a palindrome. -/
theorem ofLittleEndian_reverse_eq_iff {width number : Nat} (fits : number < 256 ^ width) :
    ofLittleEndian (littleEndian width number).reverse = number ↔
      (littleEndian width number).reverse = littleEndian width number := by
  rw [← ofLittleEndian_inj List.length_reverse, ofLittleEndian_littleEndian, Nat.mod_eq_of_lt fits]

end VehicleEdge
