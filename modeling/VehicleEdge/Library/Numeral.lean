import Mathlib.Data.List.Basic

/-
This file models the integer texts of the C library, where a mark before the digits chooses the base, and reads
back what is written in three bases.
-/

namespace VehicleEdge.Numeral

/-- The digits go on with the letters. -/
def digitValue (letter : Char) : Option Nat :=
  if 48 ≤ letter.toNat ∧ letter.toNat ≤ 57 then some (letter.toNat - 48)
  else if 97 ≤ letter.toNat ∧ letter.toNat ≤ 122 then some (letter.toNat - 87)
  else if 65 ≤ letter.toNat ∧ letter.toNat ≤ 90 then some (letter.toNat - 55)
  else none

def digitOf (base : Nat) (letter : Char) : Option Nat := (digitValue letter).filter (· < base)

/-- The number goes on with the digits at the start of the text. -/
def readDigits (base value : Nat) : List Char → Nat
  | [] => value
  | letter :: text =>
      match digitOf base letter with
      | some digit => readDigits base (value * base + digit) text
      | none => value

/-- The white space of the default locale. -/
def isSpace (letter : Char) : Bool := letter = ' ' || (9 ≤ letter.toNat && letter.toNat ≤ 13)

def isMark (letter : Char) : Bool := letter = 'x' || letter = 'X'

/-- The mark of a hexadecimal number counts only before a digit. -/
def chooseBase (text : List Char) : Nat × List Char :=
  match text with
  | '0' :: mark :: letter :: rest =>
      if isMark mark && (digitOf 16 letter).isSome then (16, letter :: rest) else (8, text)
  | '0' :: _ => (8, text)
  | _ => (10, text)

/-- The sign stands before the mark. -/
def splitSign (text : List Char) : Bool × List Char :=
  match text with
  | '-' :: rest => (true, rest)
  | '+' :: rest => (false, rest)
  | _ => (false, text)

/-- Without a digit there is no number, and the text after the digits is not read. -/
def readNumber (text : List Char) : Option Nat :=
  let (base, digits) := chooseBase text
  match digits with
  | [] => none
  | letter :: _ => if (digitOf base letter).isSome then some (readDigits base 0 digits) else none

def strtol (text : List Char) : Option Int :=
  let (negative, unsigned) := splitSign (text.dropWhile isSpace)
  (readNumber unsigned).map fun (value : Nat) => if negative then -(value : Int) else (value : Int)

inductive Radix where
  | decimal | hexadecimal | octal
  deriving DecidableEq

def Radix.base : Radix → Nat
  | .decimal => 10
  | .hexadecimal => 16
  | .octal => 8

/-- A spelling chooses the base, a plus sign, the case of the letters, and more zeros behind the mark. -/
structure Spelling where
  radix : Radix
  plus : Bool := false
  upperMark : Bool := false
  upperDigits : Bool := false
  zeros : Nat := 0

namespace Spelling

variable (spelling : Spelling)

/-- A decimal number has no mark, since a zero before it would choose another base. -/
def mark : List Char :=
  match spelling.radix with
  | .decimal => []
  | .hexadecimal => ['0', if spelling.upperMark then 'X' else 'x']
  | .octal => ['0']

def padding : List Char :=
  match spelling.radix with
  | .decimal => []
  | .hexadecimal | .octal => List.replicate spelling.zeros '0'

def letter (digit : Char) : Char := if spelling.upperDigits then digit.toUpper else digit

def sign (value : Int) : List Char := if value < 0 then ['-'] else if spelling.plus then ['+'] else []

/-- The digits of the absolute value are written behind the padding. -/
def digits (value : Nat) : List Char :=
  spelling.padding ++ (Nat.toDigits spelling.radix.base value).map spelling.letter

def write (value : Int) : List Char :=
  spelling.sign value ++ (spelling.mark ++ spelling.digits value.natAbs)

end Spelling

/-- The text does not go on with a digit or a letter. -/
def Ends (rest : List Char) : Prop := ∀ letter ∈ rest.head?, digitValue letter = none

section Letters

theorem digitValue_letter (spelling : Spelling) {digit : Nat} (small : digit < 16) :
    digitValue (spelling.letter digit.digitChar) = some digit := by
  unfold Spelling.letter
  cases spelling.upperDigits <;> (revert digit; decide)

theorem digitOf_of_value {base digit : Nat} {letter : Char} (value : digitValue letter = some digit)
    (below : digit < base) : digitOf base letter = some digit := by
  rw [digitOf, value]
  simpa using below

theorem isMark_of_value {letter : Char} {digit : Nat} (value : digitValue letter = some digit)
    (small : digit < 16) : isMark letter = false := by
  by_contra mark
  simp only [isMark, Bool.or_eq_true, decide_eq_true_eq, Bool.not_eq_false] at mark
  obtain rfl | rfl := mark <;> (cases value; revert small; decide)

theorem isMark_ends {letter : Char} {rest : List Char} (ends : Ends (letter :: rest)) :
    isMark letter = false := by
  have other := ends letter rfl
  by_contra mark
  simp only [isMark, Bool.or_eq_true, decide_eq_true_eq, Bool.not_eq_false] at mark
  obtain rfl | rfl := mark <;> cases other

/-- White space has no digit. -/
theorem isSpace_of_value {letter : Char} {digit : Nat} (value : digitValue letter = some digit) :
    isSpace letter = false := by
  by_contra space
  simp only [isSpace, Bool.or_eq_true, Bool.and_eq_true, decide_eq_true_eq, Bool.not_eq_false] at space
  rcases space with rfl | ⟨low, high⟩
  · cases value
  · rw [digitValue, if_neg (by omega), if_neg (by omega), if_neg (by omega)] at value
    cases value

theorem splitSign_of_value {letter : Char} {digit : Nat} (value : digitValue letter = some digit)
    (text : List Char) : splitSign (letter :: text) = (false, letter :: text) := by
  unfold splitSign
  split
  case h_1 same =>
    cases same
    cases value
  case h_2 same =>
    cases same
    cases value
  case h_3 => rfl

end Letters

section Digits

variable (spelling : Spelling)

/-- The written digits are read as the number, and the reading goes on behind them. -/
theorem readDigits_toDigits {base : Nat} (large : 1 < base) (small : base ≤ 16) (value : Nat)
    (rest : List Char) :
    readDigits base 0 ((Nat.toDigits base value).map spelling.letter ++ rest) = readDigits base value rest := by
  have one {digit : Nat} (below : digit < base) := digitOf_of_value
    (digitValue_letter spelling (Nat.lt_of_lt_of_le below small)) below
  induction value using Nat.strongRecOn generalizing rest with
  | ind value ih =>
      rcases Nat.lt_or_ge value base with single | several
      · rw [Nat.toDigits_of_lt_base single, List.map_singleton, List.singleton_append, readDigits, one single]
        simp
      · have last : value % base < base := Nat.mod_lt _ (by omega)
        rw [Nat.toDigits_of_base_le large several, List.map_append, List.append_assoc,
          ih (value / base) (Nat.div_lt_self (by omega) large), List.map_singleton, List.singleton_append,
          readDigits, one last]
        dsimp only
        rw [Nat.div_add_mod']

/-- The padding does not change the number. -/
theorem readDigits_zeros {base : Nat} (positive : 0 < base) (count : Nat) (rest : List Char) :
    readDigits base 0 (List.replicate count '0' ++ rest) = readDigits base 0 rest := by
  have zero : digitOf base '0' = some 0 := digitOf_of_value (by decide) positive
  induction count with
  | zero => rfl
  | succ count ih =>
      rw [List.replicate_succ, List.cons_append, readDigits, zero]
      simpa using ih

theorem radix_base : 1 < spelling.radix.base ∧ spelling.radix.base ≤ 16 := by
  cases spelling.radix <;> decide

theorem readDigits_digits (value : Nat) (rest : List Char) :
    readDigits spelling.radix.base 0 (spelling.digits value ++ rest) =
      readDigits spelling.radix.base value rest := by
  obtain ⟨large, small⟩ := radix_base spelling
  rw [Spelling.digits, List.append_assoc, ← readDigits_toDigits spelling large small value rest,
    Spelling.padding]
  cases spelling.radix with
  | decimal => rfl
  | hexadecimal | octal => exact readDigits_zeros (by decide) _ _

/-- The first written digit is not zero for a positive number. -/
theorem toDigits_head {base : Nat} (large : 1 < base) (value : Nat) :
    ∃ digit rest, digit < base ∧ (0 < value → 0 < digit) ∧
      Nat.toDigits base value = digit.digitChar :: rest := by
  induction value using Nat.strongRecOn with
  | ind value ih =>
      rcases Nat.lt_or_ge value base with single | several
      · exact ⟨value, [], single, id, Nat.toDigits_of_lt_base single⟩
      · obtain ⟨digit, rest, below, positive, written⟩ :=
          ih (value / base) (Nat.div_lt_self (by omega) large)
        refine ⟨digit, rest ++ [(value % base).digitChar], below, fun _ => ?_, ?_⟩
        · exact positive (Nat.div_pos several (by omega))
        · rw [Nat.toDigits_of_base_le large several, written, List.cons_append]

/-- The digits start with a digit of the base, which without padding is not zero for a positive number. -/
theorem digits_head (value : Nat) :
    ∃ first rest digit, spelling.digits value = first :: rest ∧ digitValue first = some digit ∧
      digit < spelling.radix.base ∧ (spelling.radix = .decimal → 0 < value → 0 < digit) := by
  obtain ⟨large, small⟩ := radix_base spelling
  obtain ⟨digit, rest, below, positive, written⟩ := toDigits_head large value
  have first := digitValue_letter spelling (Nat.lt_of_lt_of_le below small)
  unfold Spelling.digits
  rw [written, List.map_cons]
  cases padding : spelling.padding with
  | nil => exact ⟨_, _, digit, rfl, first, below, fun _ => positive⟩
  | cons zero zeros =>
      have isZero : zero = '0' ∧ spelling.radix ≠ .decimal := by
        unfold Spelling.padding at padding
        cases radix : spelling.radix <;> rw [radix] at padding
        case decimal => cases padding
        all_goals exact ⟨List.eq_of_mem_replicate (padding ▸ List.mem_cons_self), by decide⟩
      obtain ⟨rfl, other⟩ := isZero
      exact ⟨'0', _, 0, rfl, by decide, by omega, fun decimal => absurd decimal other⟩

/-- The reading ends where the text does not go on with a digit. -/
theorem readDigits_ends {base value : Nat} {rest : List Char} (ends : Ends rest) :
    readDigits base value rest = value := by
  cases rest with
  | nil => rfl
  | cons letter rest =>
      have none : digitOf base letter = Option.none := by rw [digitOf, ends letter rfl, Option.filter_none]
      rw [readDigits, none]

theorem chooseBase_nonzero {letter : Char} (nonzero : letter ≠ '0') (text : List Char) :
    chooseBase (letter :: text) = (10, letter :: text) := by
  unfold chooseBase
  split
  case h_1 same => exact absurd (List.cons.inj same).1 nonzero
  case h_2 same => exact absurd (List.cons.inj same).1 nonzero
  case h_3 => rfl

/-- A zero without a mark behind it chooses the base eight. -/
theorem chooseBase_zero {text : List Char} (unmarked : ∀ letter ∈ text.head?, isMark letter = false) :
    chooseBase ('0' :: text) = (8, '0' :: text) := by
  match text with
  | [] => rfl
  | [_] => rfl
  | mark :: letter :: rest => simp [chooseBase, unmarked mark rfl]

/-- Digits that are read in the chosen base give the number. -/
theorem readNumber_of_chosen {base value digit : Nat} {text more : List Char} {first : Char}
    (chosen : chooseBase text = (base, first :: more)) (found : digitValue first = some digit)
    (below : digit < base) (read : readDigits base 0 (first :: more) = value) :
    readNumber text = some value := by
  have some_ : (digitOf base first).isSome = true := by
    rw [digitOf_of_value found below]
    rfl
  rw [readNumber, chosen]
  simp only [some_, if_true, read]

/-- The mark and the digits of a spelling are read as the number. -/
theorem readNumber_spelling (value : Nat) {rest : List Char} (ends : Ends rest) :
    readNumber (spelling.mark ++ spelling.digits value ++ rest) = some value := by
  obtain ⟨first, more, digit, written, found, below, positive⟩ := digits_head spelling value
  have read := readDigits_digits spelling value rest
  rw [readDigits_ends ends] at read
  rw [written, List.cons_append] at read
  rw [List.append_assoc, written, List.cons_append]
  have unmarked := isMark_of_value found (Nat.lt_of_lt_of_le below (radix_base spelling).2)
  unfold Spelling.mark
  cases radix : spelling.radix with
  | decimal =>
      rw [radix] at below read
      by_cases zero : first = '0'
      · -- the number zero is one digit, which chooses the base eight
        have none : value = 0 := by
          subst zero
          cases found
          by_contra some_
          exact Nat.lt_irrefl 0 (positive radix (Nat.pos_of_ne_zero some_))
        subst none zero
        have alone : more = [] := by
          unfold Spelling.digits Spelling.padding at written
          rw [radix] at written
          exact (List.cons.inj written).2.symm
        subst alone
        refine readNumber_of_chosen (chooseBase_zero ?_) found (by cases found; decide) ?_
        · cases rest with
          | nil => exact fun _ none => by cases none
          | cons other rest =>
              intro letter head
              cases head
              exact isMark_ends ends
        · rw [readDigits, digitOf_of_value found (by cases found; decide)]
          cases found
          exact readDigits_ends ends
      · exact readNumber_of_chosen (chooseBase_nonzero zero _) found below read
  | hexadecimal =>
      rw [radix] at below read
      have digit16 : (digitOf 16 first).isSome = true :=
        Option.isSome_iff_exists.mpr ⟨digit, digitOf_of_value found below⟩
      refine readNumber_of_chosen ?_ found below read
      cases spelling.upperMark <;> simp [chooseBase, isMark, digit16, Radix.base]
  | octal =>
      rw [radix] at below read
      refine readNumber_of_chosen (chooseBase_zero ?_) (by decide : digitValue '0' = some 0) (by decide) ?_
      · intro letter head
        cases head
        exact unmarked
      · exact read

end Digits

theorem dropWhile_spaces {spaces text : List Char} {letter : Char}
    (blank : ∀ space ∈ spaces, isSpace space = true) (solid : isSpace letter = false) :
    (spaces ++ letter :: text).dropWhile isSpace = letter :: text := by
  rw [List.dropWhile_append_of_pos blank, List.dropWhile_cons_of_neg (by simp [solid])]

/-- The text of an unsigned number starts with a digit. -/
theorem mark_digits_head (spelling : Spelling) (value : Nat) :
    ∃ first rest digit, spelling.mark ++ spelling.digits value = first :: rest ∧
      digitValue first = some digit := by
  obtain ⟨first, rest, digit, written, found, -⟩ := digits_head spelling value
  unfold Spelling.mark
  rw [written]
  cases spelling.radix with
  | decimal => exact ⟨first, rest, digit, rfl, found⟩
  | hexadecimal | octal => exact ⟨'0', _, 0, rfl, by decide⟩

/-- White space, a sign, a mark, and the text behind the digits do not change the number. -/
theorem strtol_write (spelling : Spelling) (value : Int) {spaces rest : List Char}
    (blank : ∀ space ∈ spaces, isSpace space = true) (ends : Ends rest) :
    strtol (spaces ++ (spelling.write value ++ rest)) = some value := by
  obtain ⟨first, more, digit, written, found⟩ := mark_digits_head spelling value.natAbs
  have number := readNumber_spelling spelling value.natAbs ends
  rw [written, List.cons_append] at number
  have text : spelling.write value ++ rest = spelling.sign value ++ first :: (more ++ rest) := by
    rw [Spelling.write, written, List.append_assoc]
    rfl
  rw [strtol, text, Spelling.sign]
  by_cases negative : value < 0
  · rw [if_pos negative, List.singleton_append, dropWhile_spaces blank rfl]
    change (readNumber (first :: (more ++ rest))).map (fun (value : Nat) => -(value : Int)) = some value
    rw [number, Option.map_some]
    congr 1
    omega
  · have same : ((value.natAbs : Nat) : Int) = value := by omega
    rw [if_neg negative]
    cases spelling.plus with
    | false =>
        rw [if_neg Bool.false_ne_true, List.nil_append, dropWhile_spaces blank (isSpace_of_value found),
          splitSign_of_value found]
        simpa [number] using same
    | true =>
        rw [if_pos rfl, List.singleton_append, dropWhile_spaces blank rfl]
        change (readNumber (first :: (more ++ rest))).map (fun (value : Nat) => (value : Int)) = some value
        rw [number, Option.map_some, same]

end VehicleEdge.Numeral
