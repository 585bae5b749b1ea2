import Provision.Proofs.Binary64.Bits
import Provision.Proofs.Value.Json
import Provision.Value.Compare

/-!
Equality of values. Values that count as numbers are equal as numbers and equal no others; these are
equal as texts in lower case or as they are. Both are equivalences where no NaN occurs, with one
exception: a double equals all the integers that are rounded to it, and these differ from each
other.
-/

namespace Provision.Value

/-- No double inside a value is a NaN. -/
def NaNFree (v : Value) : Prop := ∀ x, .float x ∈ v.parts → Binary64.isNaN x = false

section Same

mutual

theorem same_self (v : Value) (numbers : v.NaNFree) : v.same v = true := by
  cases v with
  | undef => rfl
  | boolean b => exact beq_self_eq_true b
  | integer n => exact beq_self_eq_true n
  | float x =>
    have placed : Binary64.place? x.toBits ≠ none :=
      (Binary64.place?_ne_none_iff x).mpr (numbers x List.mem_cons_self)
    exact (@Number.equal_self_iff (.float x)).mpr placed
  | string s => exact beq_self_eq_true s
  | array items =>
    exact sameItems_self items fun x member => numbers x (List.mem_cons_of_mem _ member)
  | hash entries =>
    exact sameEntries_self entries fun x member => numbers x (List.mem_cons_of_mem _ member)

theorem sameItems_self (items : List Value)
    (numbers : ∀ x, .float x ∈ partsOfItems items → Binary64.isNaN x = false) :
    sameItems items items = true := by
  cases items with
  | nil => rfl
  | cons v rest =>
    rw [sameItems, same_self v fun x member => numbers x (List.mem_append_left _ member),
      sameItems_self rest fun x member => numbers x (List.mem_append_right _ member)]
    rfl

theorem sameEntries_self (entries : List (String × Value))
    (numbers : ∀ x, .float x ∈ partsOfEntries entries → Binary64.isNaN x = false) :
    sameEntries entries entries = true := by
  cases entries with
  | nil => rfl
  | cons entry rest =>
    obtain ⟨key, v⟩ := entry
    rw [sameEntries, same_self v fun x member => numbers x (List.mem_append_left _ member),
      sameEntries_self rest fun x member => numbers x (List.mem_append_right _ member),
      beq_self_eq_true]
    rfl

end

mutual

theorem same_comm (a b : Value) : a.same b = b.same a := by
  cases a with
  | undef => cases b <;> rfl
  | boolean p =>
    cases b with
    | boolean q => exact BEq.comm
    | _ => rfl
  | integer m =>
    cases b with
    | integer n => exact BEq.comm
    | _ => rfl
  | float x =>
    cases b with
    | float y => exact Number.equal_comm (.float x) (.float y)
    | _ => rfl
  | string s =>
    cases b with
    | string t => exact BEq.comm
    | _ => rfl
  | array items =>
    cases b with
    | array items' => exact sameItems_comm items items'
    | _ => rfl
  | hash entries =>
    cases b with
    | hash entries' => exact sameEntries_comm entries entries'
    | _ => rfl

theorem sameItems_comm (as bs : List Value) : sameItems as bs = sameItems bs as := by
  cases as with
  | nil => cases bs <;> rfl
  | cons a as =>
    cases bs with
    | nil => rfl
    | cons b bs => rw [sameItems, sameItems, same_comm a b, sameItems_comm as bs]

theorem sameEntries_comm (as bs : List (String × Value)) :
    sameEntries as bs = sameEntries bs as := by
  cases as with
  | nil => cases bs <;> rfl
  | cons entry as =>
    obtain ⟨j, a⟩ := entry
    cases bs with
    | nil => rfl
    | cons entry' bs =>
      obtain ⟨k, b⟩ := entry'
      rw [sameEntries, sameEntries, same_comm a b, sameEntries_comm as bs, BEq.comm]

end

mutual

theorem same_trans {a b c : Value} (ab : a.same b = true) (bc : b.same c = true) :
    a.same c = true := by
  cases a <;> cases b <;> try exact absurd ab Bool.false_ne_true
  all_goals cases c <;> try exact absurd bc Bool.false_ne_true
  case undef => rfl
  case boolean p q r => exact BEq.trans ab bc
  case integer l m n => exact BEq.trans ab bc
  case float x y z =>
    have exact : Number.equal (.float x) (.float z) = true ↔ _ :=
      @Number.equal_trans_iff (.float x) (.float y) (.float z) ab bc
    exact exact.mpr nofun
  case string r s t => exact BEq.trans ab bc
  case array as bs cs => exact sameItems_trans ab bc
  case hash as bs cs => exact sameEntries_trans ab bc
termination_by structural a

theorem sameItems_trans {as bs cs : List Value} (ab : sameItems as bs = true)
    (bc : sameItems bs cs = true) : sameItems as cs = true := by
  cases as <;> cases bs <;> try exact absurd ab Bool.false_ne_true
  all_goals cases cs <;> try exact absurd bc Bool.false_ne_true
  case nil => rfl
  case cons a as b bs c cs =>
    rw [sameItems, Bool.and_eq_true] at ab bc ⊢
    exact ⟨same_trans ab.1 bc.1, sameItems_trans ab.2 bc.2⟩
termination_by structural as

theorem sameEntries_trans {as bs cs : List (String × Value)} (ab : sameEntries as bs = true)
    (bc : sameEntries bs cs = true) : sameEntries as cs = true := by
  cases as <;> cases bs <;> try exact absurd ab Bool.false_ne_true
  all_goals cases cs <;> try exact absurd bc Bool.false_ne_true
  case nil => rfl
  case cons entry as entry' bs entry'' cs =>
    obtain ⟨i, a⟩ := entry
    obtain ⟨j, b⟩ := entry'
    obtain ⟨k, c⟩ := entry''
    rw [sameEntries, Bool.and_eq_true, Bool.and_eq_true] at ab bc ⊢
    exact ⟨⟨BEq.trans ab.1.1 bc.1.1, same_trans ab.1.2 bc.1.2⟩, sameEntries_trans ab.2 bc.2⟩
termination_by structural as

end

end Same

section Kinds

variable {a b c : Value}

theorem equal_of_numbers {m n : Number} (left : a.number? = some m) (right : b.number? = some n) :
    a.equal b = m.equal n := by
  unfold equal
  rw [left, right]

theorem equal_comm (a b : Value) : a.equal b = b.equal a := by
  unfold equal
  cases a.number? <;> cases b.number?
  case some.some m n => exact Number.equal_comm m n
  all_goals
    cases a <;> cases b
    case string.string s t => exact BEq.comm
    case undef.string => rfl
    case string.undef => rfl
    all_goals exact same_comm _ _

/-- Values that are the same count as numbers together. -/
theorem number?_ne_none_of_same {n : Number} (same : a.same b = true) (left : a.number? = some n) :
    b.number? ≠ none := by
  cases a with
  | integer m =>
    cases b with
    | integer m' => exact Option.some_ne_none _
    | _ => exact absurd same Bool.false_ne_true
  | float x =>
    cases b with
    | float y => exact Option.some_ne_none _
    | _ => exact absurd same Bool.false_ne_true
  | string s =>
    cases b with
    | string t =>
      have texts : s = t := beq_iff_eq.mp same
      rw [← texts, left]
      exact Option.some_ne_none n
    | _ => exact absurd same Bool.false_ne_true
  | _ => cases left

theorem folded_eq_nil_iff {s : String} : Text.folded s = [] ↔ s.isEmpty = true := by
  rw [Text.folded, Text.lower_eq_nil_iff, String.toList_eq_nil_iff, String.isEmpty_iff]

/-- A value that counts as a number equals none that does not. -/
theorem equal_eq_false {n : Number} (left : a.number? = some n) (right : b.number? = none) :
    a.equal b = false := by
  unfold equal
  rw [left, right]
  dsimp only
  split
  case h_1 s t => exact beq_false_of_ne (Number.folded_ne left right)
  case h_2 => cases left
  case h_3 s =>
    have different : Text.folded s ≠ Text.folded "" := Number.folded_ne left rfl
    exact Bool.eq_false_iff.mpr fun empty => different (folded_eq_nil_iff.mpr empty)
  case h_4 =>
    refine Bool.eq_false_iff.mpr fun same => ?_
    exact number?_ne_none_of_same same left right

theorem exists_number_of_equal {m : Number} (ab : a.equal b = true) (left : a.number? = some m) :
    ∃ n, b.number? = some n := by
  cases right : b.number? with
  | some n => exact ⟨n, rfl⟩
  | none =>
    rw [equal_eq_false left right] at ab
    contradiction

theorem number?_eq_none_of_equal (ab : a.equal b = true) (left : a.number? = none) :
    b.number? = none := by
  cases right : b.number? with
  | none => rfl
  | some n =>
    rw [equal_comm, equal_eq_false right left] at ab
    contradiction

/-- A text in lower case, where `undef` is the empty one; other values as they are. -/
def caseless : Value → Value
  | .string s => .string (String.ofList (Text.folded s))
  | .undef => .string ""
  | v => v

theorem equal_eq_same_caseless (left : a.number? = none) (right : b.number? = none) :
    a.equal b = a.caseless.same b.caseless := by
  have texts (s t : String) : Text.sameButCase s t =
      (String.ofList (Text.folded s) == String.ofList (Text.folded t)) := by
    rw [Bool.eq_iff_iff, beq_iff_eq, String.ofList_inj]
    exact beq_iff_eq
  have undef (s : String) : s.isEmpty = ("" == String.ofList (Text.folded s)) := by
    rw [Bool.eq_iff_iff, beq_iff_eq, ← folded_eq_nil_iff, eq_comm]
    exact String.ofList_inj.symm
  unfold equal
  rw [left, right]
  dsimp only
  cases a <;> cases b
  case string.string s t => exact texts s t
  case undef.string s => exact undef s
  case string.undef s => exact (undef s).trans BEq.comm
  all_goals rfl

end Kinds

section Laws

variable {a b c : Value}

theorem equal_self (numbers : a.NaNFree) : a.equal a = true := by
  cases counts : a.number? with
  | some n =>
    rw [equal_of_numbers counts counts, Number.equal_self_iff]
    cases a with
    | integer m =>
      cases counts
      rw [Number.place?_integer]
      exact Option.some_ne_none _
    | float x =>
      cases counts
      exact (Binary64.place?_ne_none_iff x).mpr (numbers x List.mem_cons_self)
    | string s => exact Number.place?_ne_none_of_ofText? counts
    | _ => cases counts
  | none =>
    rw [equal_eq_same_caseless counts counts]
    cases a with
    | undef => rfl
    | string s => exact beq_self_eq_true _
    | integer m => cases counts
    | float x => cases counts
    | boolean b => exact same_self (.boolean b) numbers
    | array items => exact same_self (.array items) numbers
    | hash entries => exact same_self (.hash entries) numbers

theorem equal_trans_iff (ab : a.equal b = true) (bc : b.equal c = true) :
    a.equal c = true ↔
      ∀ m n, a.number? = some (.integer m) → c.number? = some (.integer n) → m = n := by
  cases ofA : a.number? with
  | some l =>
    obtain ⟨m, ofB⟩ := exists_number_of_equal ab ofA
    obtain ⟨n, ofC⟩ := exists_number_of_equal bc ofB
    rw [equal_of_numbers ofA ofB] at ab
    rw [equal_of_numbers ofB ofC] at bc
    rw [equal_of_numbers ofA ofC, Number.equal_trans_iff ab bc, ofC]
    simp only [Option.some.injEq]
  | none =>
    have ofB : b.number? = none := number?_eq_none_of_equal ab ofA
    have ofC : c.number? = none := number?_eq_none_of_equal bc ofB
    refine iff_of_true ?_ nofun
    rw [equal_eq_same_caseless ofA ofB] at ab
    rw [equal_eq_same_caseless ofB ofC] at bc
    rw [equal_eq_same_caseless ofA ofC]
    exact same_trans ab bc

/-- Equality is reflexive where there is no NaN, and symmetric; and two values that equal a third
are equal, unless they count as two different integers. -/
theorem equal_laws (a b c : Value) (numbers : a.NaNFree) :
    a.equal a = true ∧ (a.equal b = true → b.equal a = true) ∧
      (a.equal b = true → b.equal c = true → (a.equal c = true ↔
        ∀ m n, a.number? = some (.integer m) → c.number? = some (.integer n) → m = n)) := by
  refine ⟨equal_self numbers, ?_, ?_⟩
  · intro ab
    rwa [equal_comm]
  · intro ab bc
    exact equal_trans_iff ab bc

/-- The double 2 to the power of 53, to which the next integer is rounded as well. -/
def spread : Float := Float.ofBits 0x4340000000000000

theorem spread_naNFree : NaNFree (.float spread) := by
  intro x member
  cases List.mem_singleton.mp member
  decide +kernel

theorem equal_not_trans :
    NaNFree (.integer 9007199254740993) ∧ NaNFree (.float spread) ∧
      NaNFree (.integer 9007199254740992) ∧
      equal (.integer 9007199254740993) (.float spread) = true ∧
      equal (.float spread) (.integer 9007199254740992) = true ∧
      equal (.integer 9007199254740993) (.integer 9007199254740992) = false := by
  have integers (n : Int64) : NaNFree (.integer n) :=
    fun x member => nomatch List.mem_singleton.mp member
  exact ⟨integers _, spread_naNFree, integers _, by decide +kernel, by decide +kernel,
    by decide +kernel⟩

theorem equal_laws_spread :
    NaNFree (.float spread) ∧ equal (.float spread) (.float spread) = true ∧
      equal (.string "9007199254740993") (.float spread) = true ∧
      equal (.float spread) (.string "9.007199254740992e15") = true := by
  have first : equal (.float spread) (.string "9007199254740993") = true := by decide +kernel
  have second : equal (.string "9007199254740993") (.string "9.007199254740992e15") = true := by
    decide +kernel
  obtain ⟨self, symm, trans⟩ := equal_laws (.float spread) (.string "9007199254740993")
    (.string "9.007199254740992e15") spread_naNFree
  exact ⟨spread_naNFree, self, symm first, (trans first second).mpr nofun⟩

end Laws

end Provision.Value
