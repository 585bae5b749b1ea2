import Provision.Json.Printer
import Provision.Json.Token
import Provision.Proofs.Numeral

/-!
Lexing what the printer writes. A document has its tokens whatever stands behind it, as long as that
does not run on into the document's last number or word; the lexer finds exactly these tokens. This
is stated for documents whose numbers are integers, since the text of a double need not read back
as the same double.
-/

namespace Provision.Json

open Token

mutual

/-- The tokens of a document, in front of `after`. -/
def tokensBefore (after : List Token) : Json → List Token
  | .null => .null :: after
  | .boolean b => .boolean b :: after
  | .number n => .number n :: after
  | .string s => .string s :: after
  | .array items => .openArray :: tokensOfItemsBefore (.closeArray :: after) items
  | .object members => .openObject :: tokensOfMembersBefore (.closeObject :: after) members

def tokensOfItemsBefore (after : List Token) : List Json → List Token
  | [] => after
  | [j] => tokensBefore after j
  | j :: rest => tokensBefore (.comma :: tokensOfItemsBefore after rest) j

def tokensOfMembersBefore (after : List Token) : List (String × Json) → List Token
  | [] => after
  | [(key, j)] => .string key :: .colon :: tokensBefore after j
  | (key, j) :: rest =>
    .string key :: .colon :: tokensBefore (.comma :: tokensOfMembersBefore after rest) j

end

mutual

/-- Every number in a document is an integer. -/
def IsIntegral : Json → Prop
  | .number (.float _) => False
  | .array items => AllIntegral items
  | .object members => MembersIntegral members
  | _ => True

def AllIntegral : List Json → Prop
  | [] => True
  | j :: rest => j.IsIntegral ∧ AllIntegral rest

def MembersIntegral : List (String × Json) → Prop
  | [] => True
  | (_, j) :: rest => j.IsIntegral ∧ MembersIntegral rest

end

/-- No number and no word goes on with this text. -/
def Separated (after : List Char) : Prop :=
  ∀ c rest, after = c :: rest → isNumeric c = false ∧ isLetter c = false

theorem separated_nil : Separated [] := by
  intro c rest h
  cases h

theorem separated_cons {c : Char} (numeric : isNumeric c = false) (letter : isLetter c = false)
    (rest : List Char) : Separated (c :: rest) := by
  intro d more h
  cases h
  exact ⟨numeric, letter⟩

theorem lexFrom_silent {state : State} (next : State) {c : Char} (rest : List Char)
    (h : step state c = some (next, [])) : lexFrom state (c :: rest) = lexFrom next rest := by
  simp [lexFrom, h]

theorem lexFrom_emit {state : State} (next : State) {c : Char} (t : Token) (rest : List Char)
    (h : step state c = some (next, [t])) :
    lexFrom state (c :: rest) = (lexFrom next rest).map (t :: ·) := by
  cases more : lexFrom next rest <;> simp [lexFrom, h, more]

/-- A token that ends where the next one begins, or at the end of the text. -/
theorem lexFrom_pending {state : State} {t : Token} (after : List Char)
    (atEnd : finish state = some [t])
    (atNext : ∀ c rest, after = c :: rest →
      step state c = (start c).map fun next => (next.1, t :: next.2)) :
    lexFrom state after = (lexFrom .between after).map (t :: ·) := by
  cases after with
  | nil => simp [lexFrom, atEnd, show finish .between = some [] from rfl]
  | cons c rest =>
    have begun : step .between c = start c := rfl
    simp only [lexFrom, atNext c rest rfl, begun]
    cases start c with
    | none => rfl
    | some next => cases more : lexFrom next.1 rest <;> simp [more]

theorem lexFrom_number {text : List Char} {n : Number} {after : List Char}
    (value : number? text.reverse = some n) (apart : Separated after) :
    lexFrom (.number text) after = (lexFrom .between after).map (.number n :: ·) := by
  apply lexFrom_pending
  · simp [finish, value]
  · intro c rest h
    have numeric := (apart c rest h).1
    cases begun : start c <;> simp [step, numeric, value, begun]

theorem lexFrom_word {text : List Char} {t : Token} {after : List Char}
    (value : ofWord? text.reverse = some t) (apart : Separated after) :
    lexFrom (.word text) after = (lexFrom .between after).map (t :: ·) := by
  apply lexFrom_pending
  · simp [finish, value]
  · intro c rest h
    have letter := (apart c rest h).2
    cases begun : start c <;> simp [step, letter, value, begun]

/-- Characters that only add to what the lexer has gathered. -/
theorem lexFrom_gather (gathering : List Char → State) (cs text after : List Char)
    (adds : ∀ text, ∀ c ∈ cs, step (gathering text) c = some (gathering (c :: text), [])) :
    lexFrom (gathering text) (cs ++ after) = lexFrom (gathering (cs.reverse ++ text)) after := by
  induction cs generalizing text with
  | nil => rfl
  | cons c cs ih =>
    rw [List.cons_append, lexFrom_silent (gathering (c :: text)) _ (adds text c List.mem_cons_self),
      ih (c :: text) fun text d member => adds text d (List.mem_cons_of_mem c member)]
    simp

theorem lexFrom_spelled (c : Char) (cs : List Char) {t : Token} {after : List Char}
    (first : step .between c = some (.word [c], [])) (letters : cs.all isLetter = true)
    (value : ofWord? (c :: cs) = some t) (apart : Separated after) :
    lexFrom .between (c :: (cs ++ after)) = (lexFrom .between after).map (t :: ·) := by
  have adds : ∀ text, ∀ d ∈ cs, step (.word text) d = some (.word (d :: text), []) := by
    intro text d member
    simp [step, List.all_eq_true.mp letters d member]
  rw [lexFrom_silent (.word [c]) _ first, lexFrom_gather .word cs [c] after adds]
  exact lexFrom_word (by simpa using value) apart

theorem hexValue?_hexDigit : ∀ n < 16, Text.hexValue? (hexDigit n) = some n := by decide

/-- A control character is written as a unit of four digits, the first two of which are zero. -/
theorem lexFrom_unit (text rest : List Char) (c : Char) (h : c.toNat < 0x20) :
    lexFrom (.string text)
        ('\\' :: 'u' :: '0' :: '0' :: hexDigit (c.toNat / 16) :: hexDigit (c.toNat % 16) :: rest) =
      lexFrom (.string (c :: text)) rest := by
  have high := hexValue?_hexDigit (c.toNat / 16) (by omega)
  have low := hexValue?_hexDigit (c.toNat % 16) (by omega)
  have zero : Text.hexValue? '0' = some 0 := by decide
  have joined : c.toNat / 16 * 16 + c.toNat % 16 = c.toNat := by omega
  rw [lexFrom_silent (.escape text) _ rfl,
    lexFrom_silent (.unit text none 0 0) _ rfl,
    lexFrom_silent (.unit text none 0 1) _ (by simp [step, zero]),
    lexFrom_silent (.unit text none 0 2) _ (by simp [step, zero]),
    lexFrom_silent (.unit text none (c.toNat / 16) 3) _ (by simp [step, high])]
  apply lexFrom_silent
  have noSurrogate : endUnit text none c.toNat = some (.string (c :: text)) := by
    rw [endUnit, if_neg (by omega), if_neg (by omega), Char.ofNat_toNat]
  simp [step, low, joined, noSurrogate]

/-- An escaped character is read back as itself. -/
theorem lexFrom_escapeChar (text rest : List Char) (c : Char) :
    lexFrom (.string text) (escapeChar c ++ rest) = lexFrom (.string (c :: text)) rest := by
  unfold escapeChar
  split
  case h_8 noQuote noBackslash _ _ _ _ _ =>
    split
    case isTrue control => exact lexFrom_unit text rest c control
    case isFalse plain =>
      have quote : ¬c = '"' := noQuote
      have backslash : ¬c = '\\' := noBackslash
      exact lexFrom_silent _ rest (by simp [step, quote, backslash, plain])
  all_goals
    rw [List.cons_append, lexFrom_silent (.escape text) _ rfl]
    exact lexFrom_silent _ rest rfl

theorem lexFrom_escaped (cs text rest : List Char) :
    lexFrom (.string text) (cs.flatMap escapeChar ++ rest) =
      lexFrom (.string (cs.reverse ++ text)) rest := by
  induction cs generalizing text with
  | nil => rfl
  | cons c cs ih =>
    rw [List.flatMap_cons, List.append_assoc, lexFrom_escapeChar, ih]
    simp

theorem lexFrom_quotedBefore (after : List Char) (s : String) :
    lexFrom .between (quotedBefore after s) = (lexFrom .between after).map (.string s :: ·) := by
  rw [quotedBefore, lexFrom_silent (.string []) _ rfl, lexFrom_escaped]
  apply lexFrom_emit
  simp [step]

theorem plainWhole_digits (n : Nat) : plainWhole (Text.digits n) = true := by
  by_cases zero : n = 0
  · subst zero
    rfl
  · have lead := Text.head?_digits_ne_zero (n := n) (by omega)
    simp [plainWhole, lead]

/-- A 64-bit integer is written as a JSON number that is read as the same integer. -/
theorem number?_decimal (n : Int64) : number? (Text.decimal n.toInt) = some (.integer n) := by
  obtain ⟨c, cs, shape, first, _⟩ := Text.decimal_eq_cons n.toInt
  have noPlus : (Text.decimal n.toInt).head? ≠ some '+' := by
    rw [shape, List.head?_cons, ne_eq, Option.some.injEq]
    rintro rfl
    rcases first with h | h <;> exact absurd h (by decide)
  rw [number?, if_neg noPlus, Numeral.read?_decimal, Option.bind_some, ofNumeral?,
    plainWhole_digits, Numeral.integer?_of_decimal]
  have signed : ¬(n.toInt = 0 ∧ decide (n.toInt < 0) = true) := by
    simp only [decide_eq_true_eq]
    omega
  simp only [Bool.not_true, Bool.false_eq_true, if_false, if_neg signed, Number.ofInt?_toInt]

theorem step_between_numeric {c : Char} (h : c = '-' ∨ Text.isDigit c = true) :
    step .between c = some (.number [c], []) := by
  unfold step start
  have noSpace : isSpace c = false := by
    rcases h with rfl | digit
    · decide
    · rw [Bool.eq_false_iff]
      intro space
      simp only [isSpace, Bool.or_eq_true, beq_iff_eq] at space
      rcases space with ((rfl | rfl) | rfl) | rfl <;> exact absurd digit (by decide)
  rw [noSpace]
  simp only [Bool.false_eq_true, if_false]
  split
  case h_8 => rw [if_pos h]
  all_goals rcases h with h | h <;> exact absurd h (by decide)

/-- A text that begins like a number goes on as one while its characters may belong to numbers. -/
theorem lexFrom_numeric {c : Char} {cs : List Char} (first : c = '-' ∨ Text.isDigit c = true)
    (rest : ∀ d ∈ cs, isNumeric d = true) (after : List Char) :
    lexFrom .between (c :: cs ++ after) = lexFrom (.number (c :: cs).reverse) after := by
  have adds : ∀ text, ∀ d ∈ cs, step (.number text) d = some (.number (d :: text), []) := by
    intro text d member
    simp [step, rest d member]
  rw [List.cons_append, lexFrom_silent (.number [c]) _ (step_between_numeric first),
    lexFrom_gather .number cs [c] after adds, List.reverse_cons]

theorem isNumeric_of_isDigit {c : Char} (digit : Text.isDigit c = true) : isNumeric c = true := by
  simp [isNumeric, digit]

theorem lexFrom_decimal (n : Int64) {after : List Char} (apart : Separated after) :
    lexFrom .between (Text.decimal n.toInt ++ after) =
      (lexFrom .between after).map (.number (.integer n) :: ·) := by
  obtain ⟨c, cs, shape, first, rest⟩ := Text.decimal_eq_cons n.toInt
  have value : number? (c :: cs).reverse.reverse = some (.integer n) := by
    rw [List.reverse_reverse, ← shape, number?_decimal]
  rw [shape, lexFrom_numeric first fun d member => isNumeric_of_isDigit (rest d member),
    lexFrom_number value apart]

mutual

/-- The lexer finds the tokens of a printed document and then goes on with what follows. -/
theorem lexFrom_printBefore (j : Json) (integral : j.IsIntegral) {after : List Char}
    (apart : Separated after) :
    lexFrom .between (printBefore after j) =
      (lexFrom .between after).map fun tokens => tokensBefore tokens j := by
  cases j with
  | null => exact lexFrom_spelled 'n' ['u', 'l', 'l'] rfl rfl rfl apart
  | boolean b =>
    cases b with
    | true => exact lexFrom_spelled 't' ['r', 'u', 'e'] rfl rfl rfl apart
    | false => exact lexFrom_spelled 'f' ['a', 'l', 's', 'e'] rfl rfl rfl apart
  | number n =>
    cases n with
    | integer n => exact lexFrom_decimal n apart
    | float x => exact integral.elim
  | string s => exact lexFrom_quotedBefore after s
  | array items =>
    have closed : Separated (']' :: after) := separated_cons rfl rfl after
    rw [printBefore, lexFrom_emit .between .openArray _ rfl,
      lexFrom_printItemsBefore items integral closed,
      lexFrom_emit .between .closeArray _ rfl, Option.map_map, Option.map_map]
    rfl
  | object members =>
    have closed : Separated ('\x7d' :: after) := separated_cons rfl rfl after
    rw [printBefore, lexFrom_emit .between .openObject _ rfl,
      lexFrom_printMembersBefore members integral closed,
      lexFrom_emit .between .closeObject _ rfl, Option.map_map, Option.map_map]
    rfl

theorem lexFrom_printItemsBefore (items : List Json) (integral : AllIntegral items)
    {after : List Char} (apart : Separated after) :
    lexFrom .between (printItemsBefore after items) =
      (lexFrom .between after).map fun tokens => tokensOfItemsBefore tokens items := by
  cases items with
  | nil => simp [printItemsBefore, tokensOfItemsBefore]
  | cons j rest =>
    cases rest with
    | nil => exact lexFrom_printBefore j integral.1 apart
    | cons next more =>
      have comma : Separated (',' :: printItemsBefore after (next :: more)) :=
        separated_cons rfl rfl _
      rw [printItemsBefore, lexFrom_printBefore j integral.1 comma,
        lexFrom_emit .between .comma _ rfl,
        lexFrom_printItemsBefore (next :: more) integral.2 apart, Option.map_map, Option.map_map]
      · rfl
      · simp

theorem lexFrom_printMembersBefore (members : List (String × Json))
    (integral : MembersIntegral members) {after : List Char} (apart : Separated after) :
    lexFrom .between (printMembersBefore after members) =
      (lexFrom .between after).map fun tokens => tokensOfMembersBefore tokens members := by
  cases members with
  | nil => simp [printMembersBefore, tokensOfMembersBefore]
  | cons member rest =>
    obtain ⟨key, j⟩ := member
    cases rest with
    | nil =>
      rw [printMembersBefore, lexFrom_quotedBefore,
        lexFrom_emit .between .colon _ rfl,
        lexFrom_printBefore j integral.1 apart, Option.map_map, Option.map_map]
      rfl
    | cons next more =>
      have comma : Separated (',' :: printMembersBefore after (next :: more)) :=
        separated_cons rfl rfl _
      rw [printMembersBefore, lexFrom_quotedBefore,
        lexFrom_emit .between .colon _ rfl,
        lexFrom_printBefore j integral.1 comma,
        lexFrom_emit .between .comma _ rfl,
        lexFrom_printMembersBefore (next :: more) integral.2 apart]
      · simp only [Option.map_map]
        rfl
      · simp

end

/-- The lexer finds exactly the tokens of a printed document. -/
theorem lex_print (j : Json) (integral : j.IsIntegral) :
    lex j.print = some (tokensBefore [] j) := by
  rw [lex, print, lexFrom_printBefore j integral separated_nil]
  rfl

end Provision.Json
