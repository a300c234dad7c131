import Mathlib.Data.List.TakeWhile
import HouseholdDashboard.Json.Reader
import HouseholdDashboard.Proofs.Number.Digits

/-!
# Printed documents are read back

`FlatMembers.ofText_printed`: an object of texts, whole numbers, truth values and nulls is read
from the text that is printed of it, member by member.  Strings come back whatever characters they
have (`Token.string?_flatMap_escape`); a whole number comes back as its digits are read, which
beyond 64 bits is no whole number any more (`Token.wholeNumber`).
-/

namespace HouseholdDashboard.Json

/-- A value that is written as a single token. -/
inductive Scalar where
  | null
  | bool (b : Bool)
  | whole (n : Int)
  | text (s : String)

namespace Scalar

def toJson : Scalar → Json
  | null => .null
  | bool b => .bool b
  | whole n => .int n
  | text s => .string s

/-- The number that the digits of a whole number are read as. -/
def spelled (n : Int) : Option Number := Token.wholeNumber (n < 0) n.natAbs

/-- A whole number is read as itself, or as no whole number at all. -/
theorem spelled_cases (n : Int) :
    spelled n = none ∨ (∃ x, spelled n = some (.real x)) ∨ spelled n = some (.whole n) := by
  have float (literal : Decimal) : literal.toFloat?.map Number.real = none ∨
      ∃ x, literal.toFloat?.map Number.real = some (.real x) := by
    cases literal.toFloat? with
    | none => exact .inl rfl
    | some x => exact .inr ⟨x, rfl⟩
  unfold spelled Token.wholeNumber
  split
  · rename_i negative
    rw [decide_eq_true_eq] at negative
    split
    · exact .inr (.inl ⟨_, rfl⟩)
    split
    · refine .inr (.inr ?_)
      congr 2
      omega
    · exact (float _).imp_right .inl
  · rename_i natural
    rw [decide_eq_true_eq] at natural
    split
    · refine .inr (.inr ?_)
      congr 2
      omega
    · exact (float _).imp_right .inl

theorem spelled_of_fits {n : Int} (natural : 0 ≤ n) (fits : n.natAbs < Nat.pow 2 64) :
    spelled n = some (.whole n) := by
  have same : (n.natAbs : Int) = n := by omega
  rw [spelled, Token.wholeNumber, if_neg (by simp; omega), if_pos fits, same]

/-- Whole numbers of 64 bits with a sign are read as themselves. -/
theorem spelled_count (n : Millis) : spelled n.count = some (.whole n.count) := by
  have lower := n.lower
  have upper := n.upper
  by_cases negative : n.count < 0
  · have nonzero : n.count.natAbs ≠ 0 := by omega
    have fits : n.count.natAbs ≤ Nat.pow 2 63 := by
      show n.count.natAbs ≤ 9223372036854775808
      omega
    have same : -(n.count.natAbs : Int) = n.count := by omega
    rw [spelled, Token.wholeNumber, if_pos (decide_eq_true negative), if_neg nonzero, if_pos fits,
      same]
  · apply spelled_of_fits
    · omega
    · show n.count.natAbs < 18446744073709551616
      omega

def token : Scalar → Token
  | null => .null
  | bool b => .bool b
  | whole n => .number (spelled n)
  | text s => .string (some s)

def draft : Scalar → Draft
  | null => .null
  | bool b => .bool b
  | whole n => .number (spelled n)
  | text s => .string (some s)

end Scalar

/-- The members of an object that has no other objects or arrays in it. -/
abbrev FlatMembers := List (String × Scalar)

namespace FlatMembers

def toJson (ms : FlatMembers) : Json := .object (ms.map fun m => (m.1, m.2.toJson))

def draft (ms : FlatMembers) : Draft := .object (ms.map fun m => (some m.1, m.2.draft)) true

end FlatMembers

namespace Token

/-! ## Strings -/

/-- The escape of a control character spells its number. -/
theorem hex4?_control : ∀ n < 0x20,
    hex4? '0' '0' (Nat.digitChar (n / 16)) (Nat.digitChar (n % 16)) = some n := by decide

theorem pushUnit_control (p : Partial) {n : Nat} (control : n < 0x20) :
    p.pushUnit n = p.push (Char.ofNat n) := by
  have noHigh : isHighSurrogate n = false := by simp [isHighSurrogate]; omega
  have noLow : isLowSurrogate n = false := by simp [isLowSurrogate]; omega
  simp only [Partial.pushUnit, noHigh, noLow, Bool.false_eq_true, if_false]

theorem string?_short (p : Partial) {letter c : Char} (short : shortEscape? letter = some c)
    (rest : List Char) : string? p ('\\' :: letter :: rest) = string? (p.push c) rest := by
  rw [string?, short]
  rintro a b c d rest rfl
  cases short

/-- A character as it stands in a string is read as that character. -/
theorem string?_escape (p : Partial) (c : Char) (rest : List Char) :
    string? p (escape c ++ rest) = string? (p.push c) rest := by
  unfold escape
  split
  case h_8 quote backslash _ _ _ _ _ =>
    split
    · rename_i control
      simp only [List.cons_append, List.nil_append, string?, hex4?_control c.toNat control,
        pushUnit_control p control, Char.ofNat_toNat]
    · rename_i visible
      rw [List.singleton_append, string?, if_neg visible]
      · exact quote
      all_goals
        intros
        exact backslash ‹_›
  all_goals exact string?_short p rfl rest

theorem string?_flatMap_escape {p : Partial} (settled : p.pending = none) (paired : p.paired = true)
    (cs rest : List Char) :
    string? p (cs.flatMap escape ++ '"' :: rest) =
      some (some (String.ofList (p.chars.reverse ++ cs)), rest) := by
  induction cs generalizing p with
  | nil => simp [string?, Partial.text?, settled, paired]
  | cons c cs ih =>
    rw [List.flatMap_cons, List.append_assoc, string?_escape,
      ih (p := p.push c) rfl (by simp [Partial.push, settled, paired])]
    simp [Partial.push]

/-! ## Numbers -/

/-- Whether a number before the rest of a text ends there. -/
def Ends (rest : List Char) : Prop :=
  ∀ c ∈ rest.head?, c.isDigit = false ∧ c ≠ '.' ∧ c ≠ 'e' ∧ c ≠ 'E'

theorem ends_cons {c : Char} (mark : c ∈ [',', ':', '\x7d']) (rest : List Char) :
    Ends (c :: rest) := by
  intro first same
  cases same
  have each : ∀ m ∈ [',', ':', '\x7d'], m.isDigit = false ∧ m ≠ '.' ∧ m ≠ 'e' ∧ m ≠ 'E' := by
    simp only [List.forall_mem_cons, List.not_mem_nil, false_imp_iff, implies_true, and_true]
    decide
  exact each c mark

theorem digits?_append {rest : List Char} (ends : Ends rest) (n : Nat) :
    digits? (Decimal.digits n ++ rest) = some (Decimal.digits n, rest) := by
  have digit : ∀ c ∈ Decimal.digits n, c.isDigit = true := fun c => Decimal.isDigit_of_mem_digits
  have none_front : rest.takeWhile Char.isDigit = [] ∧ rest.dropWhile Char.isDigit = rest := by
    cases rest with
    | nil => exact ⟨rfl, rfl⟩
    | cons c cs =>
      have other := (ends c rfl).1
      exact ⟨List.takeWhile_cons_of_neg (by rw [other]; decide),
        List.dropWhile_cons_of_neg (by rw [other]; decide)⟩
  rw [digits?, List.takeWhile_append_of_pos digit, List.dropWhile_append_of_pos digit,
    none_front.1, none_front.2, List.append_nil]
  simp [Decimal.digits_ne_nil]

theorem fraction?_of_ends {rest : List Char} (ends : Ends rest) :
    fraction? rest = some ([], rest) := by
  unfold fraction?
  split
  · exact absurd rfl (ends '.' rfl).2.1
  · rfl

theorem exponent?_of_ends {rest : List Char} (ends : Ends rest) :
    exponent? rest = some (false, 0, rest) := by
  unfold exponent?
  split
  · rename_i c cs
    obtain ⟨_, _, small, capital⟩ := ends c rfl
    rw [if_neg (by rintro (rfl | rfl) <;> contradiction)]
  · rfl

theorem minus_digits (negative : Bool) (n : Nat) (rest : List Char) :
    minus ((if negative then ['-'] else []) ++ Decimal.digits n ++ rest) =
      (negative, Decimal.digits n ++ rest) := by
  cases negative with
  | true => rfl
  | false =>
    cases found : Decimal.digits n with
    | nil => exact absurd found (Decimal.digits_ne_nil n)
    | cons d ds =>
      have first : d ∈ Decimal.digits n := by
        rw [found]
        exact List.mem_cons_self
      have noSign : d ≠ '-' := by
        rintro rfl
        exact absurd (Decimal.isDigit_of_mem_digits first) (by decide)
      simp only [Bool.false_eq_true, if_false, List.nil_append, List.cons_append]
      rw [minus]
      intro rest' same
      exact noSign (List.cons.inj same).1

/-- The digits of a number, with or without a sign, are read as that number. -/
theorem number?_digits {rest : List Char} (ends : Ends rest) (negative : Bool) (n : Nat) :
    number? ((if negative then ['-'] else []) ++ Decimal.digits n ++ rest) =
      some (wholeNumber negative n, rest) := by
  have noZero : ¬(1 < (Decimal.digits n).length ∧ (Decimal.digits n).head? = some '0') := by
    rintro ⟨long, zero⟩
    rw [Decimal.eq_zero_of_head?_digits zero] at long
    exact absurd long (by decide)
  simp only [number?, minus_digits, digits?_append ends, fraction?_of_ends ends,
    exponent?_of_ends ends, Option.bind_eq_bind, Option.bind_some, if_neg noZero,
    Decimal.ofDigits_digits, List.isEmpty_nil, Bool.not_false, and_self, if_true]

/-! ## One token after the other -/

/-- Only a number could go on in what follows it. -/
def Parted (t : Token) (rest : List Char) : Prop := ∀ n, t = number n → Ends rest

/-- Whether a piece of text is read as one token, whatever it is parted from. -/
structure Writes (p : List Char) (t : Token) : Prop where
  read : ∀ rest, Parted t rest → next? (p ++ rest) = some (t, rest)
  visible : ∃ c cs, p = c :: cs ∧ isSpace c = false

/-- Whether a text is read as some tokens. -/
def Scans (cs : List Char) (ts : List Token) : Prop :=
  ∀ limit, cs.length ≤ limit → scan limit cs = ts

theorem parted_of_ne {t : Token} (other : ∀ n, t ≠ number n) (rest : List Char) : Parted t rest :=
  fun n same => absurd same (other n)

theorem Scans.nil : Scans [] [] := by
  intro limit _
  cases limit <;> rfl

theorem Scans.cons {p rest : List Char} {t : Token} {ts : List Token} (writes : Writes p t)
    (parted : Parted t rest) (scans : Scans rest ts) : Scans (p ++ rest) (t :: ts) := by
  intro limit enough
  obtain ⟨c, cs, rfl, visible⟩ := writes.visible
  cases limit with
  | zero => exact absurd enough (by simp)
  | succ limit =>
    have first : ((c :: cs) ++ rest).dropWhile isSpace = (c :: cs) ++ rest :=
      List.dropWhile_cons_of_neg (by rw [visible]; decide)
    have read := writes.read rest parted
    rw [scan, first, List.cons_append]
    rw [List.cons_append] at read
    simp only [read, scans limit (by simp at enough; omega)]

theorem Scans.ofText {text : String} {ts : List Token} (scans : Scans text.toList ts) :
    Token.ofText text = ts :=
  scans _ (Nat.le_refl _)

theorem writes_mark {c : Char} {t : Token}
    (mark : (c, t) ∈ [('\x7b', openObject), ('\x7d', closeObject), (',', comma), (':', colon)]) :
    Writes [c] t := by
  simp only [List.mem_cons, Prod.mk.injEq, List.not_mem_nil, or_false] at mark
  rcases mark with ⟨rfl, rfl⟩ | ⟨rfl, rfl⟩ | ⟨rfl, rfl⟩ | ⟨rfl, rfl⟩
  all_goals exact ⟨fun _ _ => rfl, _, _, rfl, rfl⟩

theorem writes_quoteText (s : String) : Writes (quoteText s).toList (string (some s)) := by
  have text : (quoteText s).toList = '"' :: (s.toList.flatMap escape ++ ['"']) := by
    simp [quoteText]
  refine ⟨fun rest _ => ?_, _, _, text, rfl⟩
  have read := string?_flatMap_escape (p := ⟨[], none, true⟩) rfl rfl s.toList rest
  rw [text, List.cons_append, List.append_assoc, List.singleton_append]
  show (string? ⟨[], none, true⟩ _).map _ = _
  rw [read]
  simp

/-- A text that begins with a digit or a minus sign is read as a number. -/
theorem next?_number {c : Char} (front : c = '-' ∨ c.isDigit = true) (cs : List Char) :
    next? (c :: cs) = (number? (c :: cs)).map fun (n, rest) => (number n, rest) := by
  have other : ∀ mark ∈ ['[', ']', '\x7b', '\x7d', ',', ':', 'n', 't', 'f', '"'], c ≠ mark := by
    rintro mark mem rfl
    have each : ∀ mark ∈ ['[', ']', '\x7b', '\x7d', ',', ':', 'n', 't', 'f', '"'],
        ¬(mark = '-' ∨ mark.isDigit = true) := by
      simp only [List.forall_mem_cons, List.not_mem_nil, false_imp_iff, implies_true, and_true]
      decide
    exact each c mem front
  rw [next?]
  all_goals
    intro rest same
    exact absurd (List.cons.inj same).1 (other _ (by decide))

theorem writes_whole (n : Int) : Writes (toString n).toList (number (Scalar.spelled n)) := by
  have text : (toString n).toList =
      (if decide (n < 0) then ['-'] else []) ++ Decimal.digits n.natAbs := by
    rw [Decimal.toList_toString_int]
    by_cases negative : n < 0 <;> simp [negative]
  obtain ⟨c, cs, whole, front⟩ : ∃ c cs, (toString n).toList = c :: cs ∧
      (c = '-' ∨ c.isDigit = true) := by
    rw [text]
    by_cases negative : n < 0
    · exact ⟨'-', Decimal.digits n.natAbs, by simp [negative], .inl rfl⟩
    · cases found : Decimal.digits n.natAbs with
      | nil => exact absurd found (Decimal.digits_ne_nil _)
      | cons d ds =>
        refine ⟨d, ds, by simp [negative], .inr ?_⟩
        have first : d ∈ Decimal.digits n.natAbs := by
          rw [found]
          exact List.mem_cons_self
        exact Decimal.isDigit_of_mem_digits first
  refine ⟨fun rest parted => ?_, c, cs, whole, ?_⟩
  · have read := number?_digits (parted _ rfl) (decide (n < 0)) n.natAbs
    rw [← text, whole] at read
    rw [whole, List.cons_append, next?_number front]
    rw [List.cons_append] at read
    rw [read]
    rfl
  · cases blank : isSpace c with
    | false => rfl
    | true =>
      have each : ∀ space ∈ [' ', '\n', '\t', '\r'], ¬(space = '-' ∨ space.isDigit = true) := by
        simp only [List.forall_mem_cons, List.not_mem_nil, false_imp_iff, implies_true, and_true]
        decide
      exact absurd front (each c (by simpa [isSpace, or_assoc] using blank))

theorem writes_scalar (v : Scalar) : Writes v.toJson.printed.toList v.token := by
  cases v with
  | null => exact ⟨fun _ _ => rfl, _, _, rfl, rfl⟩
  | bool b => cases b <;> exact ⟨fun _ _ => rfl, _, _, rfl, rfl⟩
  | whole n => exact writes_whole n
  | text s => exact writes_quoteText s

end Token

/-- A value of a single token is read from a text with nothing else in it. -/
theorem Scalar.ofWholeText_printed (v : Scalar) :
    Draft.ofWholeText v.toJson.printed = v.draft := by
  have ends : Token.Parted v.token [] := by
    intro n _ c none
    cases none
  have tokens : Token.ofText v.toJson.printed = [v.token] := by
    apply Token.Scans.ofText
    rw [← List.append_nil v.toJson.printed.toList]
    exact .cons (Token.writes_scalar v) ends .nil
  rw [Draft.ofWholeText, tokens]
  cases v <;> rfl

/-! ## Members -/

namespace FlatMembers

/-- The text of members, up to and with the closing brace. -/
def text : FlatMembers → List Char
  | [] => ['\x7d']
  | [m] => (quoteText m.1).toList ++ ':' :: (m.2.toJson.printed.toList ++ ['\x7d'])
  | m :: ms => (quoteText m.1).toList ++ ':' :: (m.2.toJson.printed.toList ++ ',' :: text ms)

/-- The tokens of members, up to and with the closing brace. -/
def tokens : FlatMembers → List Token
  | [] => [.closeObject]
  | [m] => [.string (some m.1), .colon, m.2.token, .closeObject]
  | m :: ms => .string (some m.1) :: .colon :: m.2.token :: .comma :: tokens ms

theorem toList_printed (ms : FlatMembers) : ms.toJson.printed.toList = '\x7b' :: ms.text := by
  have inner : (",".intercalate (printedMembers (ms.map fun m => (m.1, m.2.toJson)))).toList ++
      ['\x7d'] = ms.text := by
    induction ms with
    | nil => rfl
    | cons m ms ih =>
      cases ms with
      | nil => simp [printedMembers, text]
      | cons next ms =>
        simp only [List.map_cons, printedMembers, String.intercalate_cons_cons,
          String.toList_append, List.append_assoc] at ih ⊢
        rw [ih]
        simp [text]
  rw [← inner]
  simp [toJson, printed, bracket]

theorem scans (ms : FlatMembers) : Token.Scans ms.text ms.tokens := by
  have mark {c : Char} {t : Token} {rest : List Char} {ts : List Token}
      (mark : (c, t) ∈ [('\x7d', .closeObject), (',', .comma), (':', .colon)])
      (scans : Token.Scans rest ts) : Token.Scans (c :: rest) (t :: ts) := by
    refine .cons (p := [c]) (Token.writes_mark (List.mem_cons_of_mem _ mark)) ?_ scans
    simp only [List.mem_cons, Prod.mk.injEq, List.not_mem_nil, or_false] at mark
    rcases mark with ⟨_, rfl⟩ | ⟨_, rfl⟩ | ⟨_, rfl⟩
    all_goals exact Token.parted_of_ne (fun _ same => by cases same) rest
  have member (m : String × Scalar) {c : Char} {rest : List Char} {ts : List Token}
      (after : c ∈ [',', ':', '\x7d']) (scans : Token.Scans (c :: rest) ts) :
      Token.Scans ((quoteText m.1).toList ++ ':' :: (m.2.toJson.printed.toList ++ c :: rest))
        (.string (some m.1) :: .colon :: m.2.token :: ts) :=
    .cons (Token.writes_quoteText m.1) (Token.parted_of_ne (fun _ same => by cases same) _)
      (mark (by decide)
        (.cons (Token.writes_scalar m.2) (fun _ _ => Token.ends_cons after rest) scans))
  induction ms with
  | nil => exact mark (by decide) .nil
  | cons m ms ih =>
    cases ms with
    | nil => exact member m (by decide) (mark (by decide) .nil)
    | cons next ms => exact member m (by decide) (mark (by decide) ih)

/-- The draft of the object that members belong to, which has some members before them. -/
theorem build_tokens (ms : FlatMembers) (before : List (Option String × Draft))
    {expected : Draft.Expected} (key : expected = .keyOrClose ∨ expected = .key ∧ ms ≠ []) :
    Draft.build ms.tokens [.object before] expected =
      (.object (before.reverse ++ ms.map fun m => (some m.1, m.2.draft)) true, []) := by
  induction ms generalizing before expected with
  | nil =>
    rcases key with rfl | ⟨_, none⟩
    · simp [tokens, Draft.build, Draft.advance, Draft.mark, Draft.give, Draft.Frame.close]
    · exact absurd rfl none
  | cons m ms ih =>
    have value (ts : List Token) :
        Draft.build (.string (some m.1) :: .colon :: m.2.token :: ts) [.object before] expected =
          Draft.build ts [.object ((some m.1, m.2.draft) :: before)] .separator := by
      rcases key with rfl | ⟨rfl, _⟩ <;> rcases m with ⟨name, v⟩ <;> cases v <;> rfl
    cases ms with
    | nil =>
      rw [tokens, value]
      simp [Draft.build, Draft.advance, Draft.mark, Draft.give, Draft.Frame.close]
    | cons next ms =>
      have comma (ts : List Token) (members : List (Option String × Draft)) :
          Draft.build (.comma :: ts) [.object members] .separator =
            Draft.build ts [.object members] .key := rfl
      rw [tokens, value, comma, ih _ (.inr ⟨rfl, List.cons_ne_nil next ms⟩)]
      · simp
      · exact List.cons_ne_nil next ms

/-- An object without others in it is read from its text. -/
theorem ofText_printed (ms : FlatMembers) : Draft.ofText ms.toJson.printed = ms.draft := by
  have tokens : Token.ofText ms.toJson.printed = .openObject :: ms.tokens := by
    refine Token.Scans.ofText ?_
    rw [toList_printed]
    exact .cons (p := ['\x7b']) (Token.writes_mark (by decide))
      (Token.parted_of_ne (fun _ same => by cases same) _) ms.scans
  have opened (ts : List Token) :
      Draft.build (.openObject :: ts) [] .value = Draft.build ts [.object []] .keyOrClose := rfl
  rw [Draft.ofText, tokens, opened, build_tokens ms [] (.inl rfl)]
  rfl

end FlatMembers

/-- A whole number within a bound is read, and no other. -/
theorem Reader.natBelow_spelled {bound : Nat} (small : bound ≤ Nat.pow 2 64) (n : Int) :
    (natBelow bound (.number (Scalar.spelled n)) = .ok n.toNat ∧ 0 ≤ n ∧ n < bound) ∨
      (∃ fault, natBelow bound (.number (Scalar.spelled n)) = .error fault) ∧
        ¬(0 ≤ n ∧ n < bound) := by
  by_cases fits : 0 ≤ n ∧ n < bound
  · have spelled : Scalar.spelled n = some (.whole n) := Scalar.spelled_of_fits fits.1 (by omega)
    refine .inl ⟨?_, fits⟩
    rw [spelled, natBelow, whole, if_pos (by simpa using fits)]
    rfl
  · refine .inr ⟨?_, fits⟩
    rcases Scalar.spelled_cases n with spelled | ⟨x, spelled⟩ | spelled
    · exact ⟨_, by rw [spelled]; rfl⟩
    · exact ⟨_, by rw [spelled]; rfl⟩
    · refine ⟨.mismatch, ?_⟩
      rw [spelled, natBelow, whole, if_neg (by simpa using fits)]
      rfl

end HouseholdDashboard.Json
