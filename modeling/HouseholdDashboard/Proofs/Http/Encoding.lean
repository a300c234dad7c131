import HouseholdDashboard.Http.MediaType
import HouseholdDashboard.Proofs.Gateway.View
import HouseholdDashboard.Proofs.Text.Blank
import Mathlib.Data.List.DropRight

/-!
# Which codings a client is taken to want

A client lists the codings that it takes, each with a weight if it likes (`Preference.Lists`), and
wants Brotli if `br` is among them, in upper or lower case, with a weight other than zero
(`Preference.Wants`).  The gateway looks at how the elements of the list begin and at nothing else
(`namesBrotli_iff`), so it goes by another condition (`Preference.Begins`).  The two part company in
two ways: a coding that only begins with `br` is taken for it, also one that is refused, and `br` in
upper case is not.
-/

namespace HouseholdDashboard

namespace Http

/-! ## Lists of codings -/

/-- Whether a text is a weight from 0 to 1, of at most three decimals. -/
def isWeight : List Char → Bool
  | ['0'] => true
  | ['1'] => true
  | '0' :: '.' :: ds => ds.length ≤ 3 && ds.all Char.isDigit
  | '1' :: '.' :: ds => ds.length ≤ 3 && ds.all (· = '0')
  | _ => false

/-- Whether a weight is zero. -/
def isZeroWeight (w : List Char) : Bool := w.all fun c => c = '0' || c = '.'

/-- Whether a text consists of the spaces that may stand around the parts of a list. -/
def AreSpaces (cs : List Char) : Prop := ∀ c ∈ cs, c = ' ' ∨ c = '\t'

instance (cs : List Char) : Decidable (AreSpaces cs) :=
  List.decidableBAll (fun c => c = ' ' ∨ c = '\t') cs

/-- A coding that a client names, and the weight that it gives to it, if any. -/
structure Preference where
  coding : List Char
  weight : Option (List Char) := none
deriving DecidableEq

namespace Preference

/-- How a coding and its weight are written as an element of a list. -/
inductive Writes : Preference → List Char → Prop
  | bare (before coding after : List Char) (nonempty : coding ≠ [])
    (token : ∀ c ∈ coding, isTokenChar c = true) (spaced : AreSpaces before ∧ AreSpaces after) :
    Writes { coding } (before ++ (coding ++ after))
  | weighted (before coding between behind : List Char) (q : Char)
    (w after : List Char) (nonempty : coding ≠ [])
    (token : ∀ c ∈ coding, isTokenChar c = true) (weight : isWeight w = true)
    (letter : q = 'q' ∨ q = 'Q') (spaced : AreSpaces before ∧ AreSpaces after)
    (parted : AreSpaces between ∧ AreSpaces behind) :
    Writes { coding, weight := some w }
      (before ++ (coding ++ (between ++ ';' :: (behind ++ q :: '=' :: (w ++ after)))))

/-- How a list of codings is written: as its elements, with commas between them. -/
def Lists (ps : List Preference) (cs : List Char) : Prop :=
  ∃ elements : List (Preference × List Char), (∀ e ∈ elements, e.1.Writes e.2) ∧
    ps = elements.map Prod.fst ∧ cs = Text.join ',' (elements.map Prod.snd)

/-- Whether a coding is Brotli, in upper or lower case. -/
def IsBrotli (p : Preference) : Prop := p.coding.map Char.toLower = ['b', 'r']

/-- Whether a coding is refused by a weight of zero. -/
def Refused (p : Preference) : Prop := p.weight.any isZeroWeight = true

/-- Whether a client asks for Brotli. -/
def Wants (p : Preference) : Prop := p.IsBrotli ∧ ¬p.Refused

/-- Whether a coding begins as that of Brotli does. -/
def Begins (p : Preference) : Prop := ['b', 'r'] <+: p.coding

instance (p : Preference) : Decidable p.IsBrotli := inferInstanceAs (Decidable (_ = _))

instance (p : Preference) : Decidable p.Refused := inferInstanceAs (Decidable (_ = true))

instance (p : Preference) : Decidable p.Wants := inferInstanceAs (Decidable (_ ∧ _))

instance (p : Preference) : Decidable p.Begins := inferInstanceAs (Decidable (_ <+: _))

end Preference

/-! ## The characters of a list -/

theorem toNat_of_isAlphanum {c : Char} (alphanumeric : c.isAlphanum = true) :
    0x20 < c.toNat ∧ c.toNat < 0x7f := by
  rcases Bool.or_eq_true_iff.mp alphanumeric with letter | digit
  · rcases Bool.or_eq_true_iff.mp letter with upper | lower
    · have range : 65 ≤ c.toNat ∧ c.toNat ≤ 90 := of_decide_eq_true upper
      omega
    · obtain ⟨low, high⟩ := Bool.and_eq_true_iff.mp lower
      have range : 97 ≤ c.toNat ∧ c.toNat ≤ 122 :=
        ⟨of_decide_eq_true low, of_decide_eq_true high⟩
      omega
  · have range := Text.toNat_of_isDigit digit
    omega

theorem toNat_of_isTokenChar {c : Char} (token : isTokenChar c = true) :
    0x20 < c.toNat ∧ c.toNat < 0x7f := by
  rcases Bool.or_eq_true_iff.mp token with alphanumeric | mark
  · exact toNat_of_isAlphanum alphanumeric
  · have visible := List.all_eq_true.mp
      (show List.all _ (fun c : Char => 0x20 < c.toNat && c.toNat < 0x7f) = true by decide)
      c (List.contains_iff_mem.mp mark)
    simpa using visible

theorem isBlank_of_isTokenChar {c : Char} (token : isTokenChar c = true) :
    Text.isBlank c = false := by
  have range := toNat_of_isTokenChar token
  simp [Text.isBlank]
  omega

theorem AreSpaces.blank {cs : List Char} (spaces : AreSpaces cs) :
    ∀ c ∈ cs, Text.isBlank c = true := by
  intro c mem
  rcases spaces c mem with rfl | rfl <;> rfl

theorem isTokenChar_of_isDigit {c : Char} (digit : c.isDigit = true) : isTokenChar c = true := by
  simp [isTokenChar, Char.isAlphanum, digit]

theorem isTokenChar_of_isWeight {w : List Char} (weight : isWeight w = true) {c : Char}
    (mem : c ∈ w) : isTokenChar c = true := by
  unfold isWeight at weight
  split at weight
  · rw [List.mem_singleton.mp mem]
    rfl
  · rw [List.mem_singleton.mp mem]
    rfl
  · simp only [Bool.and_eq_true, List.all_eq_true] at weight
    simp only [List.mem_cons] at mem
    rcases mem with rfl | rfl | decimal
    · rfl
    · rfl
    · exact isTokenChar_of_isDigit (weight.2 c decimal)
  · simp only [Bool.and_eq_true, List.all_eq_true, decide_eq_true_eq] at weight
    simp only [List.mem_cons] at mem
    rcases mem with rfl | rfl | decimal
    · rfl
    · rfl
    · rw [weight.2 c decimal]
      rfl
  · cases weight

namespace Preference

variable {p : Preference} {ps : List Preference} {cs : List Char}

/-- An element has spaces, the marks of a weight and characters of names, and no others. -/
theorem Writes.mem_cases (writes : p.Writes cs) {c : Char} (mem : c ∈ cs) :
    (c = ' ' ∨ c = '\t') ∨ (c = ';' ∨ c = '=') ∨ isTokenChar c = true := by
  cases writes with
  | bare before coding after nonempty token spaced =>
    simp only [List.mem_append] at mem
    rcases mem with space | inside | space
    · exact .inl (spaced.1 c space)
    · exact .inr (.inr (token c inside))
    · exact .inl (spaced.2 c space)
  | weighted before coding between behind q w after nonempty token weight letter spaced parted =>
    simp only [List.mem_append, List.mem_cons] at mem
    rcases mem with space | inside | space | rfl | space | rfl | rfl | digit | space
    · exact .inl (spaced.1 c space)
    · exact .inr (.inr (token c inside))
    · exact .inl (parted.1 c space)
    · exact .inr (.inl (.inl rfl))
    · exact .inl (parted.2 c space)
    · rcases letter with rfl | rfl
      · exact .inr (.inr rfl)
      · exact .inr (.inr rfl)
    · exact .inr (.inl (.inr rfl))
    · exact .inr (.inr (isTokenChar_of_isWeight weight digit))
    · exact .inl (spaced.2 c space)

theorem Writes.not_mem_comma (writes : p.Writes cs) : ',' ∉ cs := by
  intro mem
  have cases := writes.mem_cases mem
  revert cases
  decide

theorem Writes.readable (writes : p.Writes cs) : ∀ c ∈ cs, isReadableChar c = true := by
  intro c mem
  rcases writes.mem_cases mem with (rfl | rfl) | (rfl | rfl) | token
  · rfl
  · rfl
  · rfl
  · rfl
  · have range := toNat_of_isTokenChar token
    simp [isReadableChar]
    omega

/-- The values of such lists can be read. -/
theorem Lists.readable (lists : Lists ps cs) : cs.all isReadableChar = true := by
  obtain ⟨elements, writes, -, rfl⟩ := lists
  apply List.all_eq_true.mpr
  intro c mem
  rcases Text.mem_join mem with rfl | ⟨part, listed, inside⟩
  · rfl
  · obtain ⟨e, element, rfl⟩ := List.mem_map.mp listed
    exact (writes e element).readable c inside

/-! ## How an element begins -/

/-- An element begins with its coding, and what follows that is no character of a name. -/
theorem Writes.exists_rest (writes : p.Writes cs) :
    ∃ before rest, cs = before ++ (p.coding ++ rest) ∧ AreSpaces before ∧ p.coding ≠ [] ∧
      (∀ c ∈ p.coding, isTokenChar c = true) ∧ ∀ c ∈ rest.head?, isTokenChar c = false := by
  have space {c : Char} (isSpace : c = ' ' ∨ c = '\t') : isTokenChar c = false := by
    rcases isSpace with rfl | rfl <;> rfl
  cases writes with
  | bare before coding after nonempty token spaced =>
    refine ⟨_, _, rfl, spaced.1, nonempty, token, fun c first => ?_⟩
    exact space (spaced.2 c (List.mem_of_mem_head? first))
  | weighted before coding between behind q w after nonempty token weight letter spaced parted =>
    refine ⟨_, _, rfl, spaced.1, nonempty, token, fun c first => ?_⟩
    cases between with
    | nil =>
      cases first
      rfl
    | cons d between =>
      cases first
      exact space (parted.1 _ List.mem_cons_self)

end Preference

/-- A prefix does not go beyond what is followed by a character that it does not have. -/
theorem isPrefix_append_iff {w xs ys : List α} (stops : ∀ y ∈ ys.head?, y ∉ w) :
    w <+: xs ++ ys ↔ w <+: xs := by
  constructor
  · intro begins
    induction w generalizing xs with
    | nil => exact List.nil_prefix
    | cons a w ih =>
      cases xs with
      | nil =>
        cases ys with
        | nil => exact begins
        | cons y ys =>
          have same : a = y := (List.cons_prefix_cons.mp begins).1
          exact absurd (same ▸ List.mem_cons_self) (stops y rfl)
      | cons x xs =>
        rw [List.cons_append, List.cons_prefix_cons] at begins
        have later : ∀ y ∈ ys.head?, y ∉ w := by
          intro y first mem
          exact stops y first (List.mem_cons_of_mem a mem)
        exact List.cons_prefix_cons.mpr ⟨begins.1, ih later begins.2⟩
  · intro begins
    exact begins.trans (List.prefix_append xs ys)

/-- An element names Brotli if its coding begins with `br`, whatever weight it has. -/
theorem namesBrotli_iff {p : Preference} {cs : List Char} (writes : p.Writes cs) :
    namesBrotli cs = true ↔ p.Begins := by
  obtain ⟨before, rest, rfl, spaces, nonempty, token, ends⟩ := writes.exists_rest
  have solid : ∀ c ∈ p.coding, Text.isBlank c = false := by
    intro c mem
    exact isBlank_of_isTokenChar (token c mem)
  have stops : ∀ c ∈ (Text.dropBlanks rest.reverse).reverse.head?, c ∉ ['b', 'r'] := by
    intro c first mem
    have front : (Text.dropBlanks rest.reverse).reverse <+: rest := by
      rw [← List.reverse_suffix, List.reverse_reverse]
      exact List.dropWhile_suffix _
    obtain ⟨end', same⟩ := front
    have first' : c ∈ rest.head? := by
      rw [← same, List.head?_append, Option.mem_def.mp first]
      rfl
    have other := ends c first'
    simp only [List.mem_cons, List.not_mem_nil, or_false] at mem
    rcases mem with rfl | rfl
    · cases other
    · cases other
  rw [namesBrotli, List.isPrefixOf_iff_prefix, Text.trim_word spaces.blank nonempty solid,
    isPrefix_append_iff stops]
  rfl

/-- A client is taken to want Brotli if one of its codings begins with `br`. -/
theorem Headers.acceptsBrotli_iff_begins {h : Headers} {name value : String}
    {ps : List Preference}
    (sent : (h.find? fun (key, _) => key.toLower = "accept-encoding") = some (name, value))
    (lists : Preference.Lists ps value.toList) :
    h.acceptsBrotli = true ↔ ∃ p ∈ ps, p.Begins := by
  have read : h.value? "accept-encoding" = some value := by
    simp only [value?, sent, lists.readable, if_true]
  obtain ⟨elements, writes, rfl, text⟩ := lists
  have named : (elements.map Prod.snd).any namesBrotli = true ↔
      ∃ p ∈ elements.map Prod.fst, p.Begins := by
    rw [List.any_map, List.any_eq_true]
    constructor
    · rintro ⟨e, element, names⟩
      exact ⟨e.1, List.mem_map_of_mem element, (namesBrotli_iff (writes e element)).mp names⟩
    · rintro ⟨p, listed, begins⟩
      obtain ⟨e, element, rfl⟩ := List.mem_map.mp listed
      exact ⟨e, element, (namesBrotli_iff (writes e element)).mpr begins⟩
  rw [← named]
  simp only [acceptsBrotli, read, text]
  cases elements with
  | nil =>
    -- an empty value is split into one empty element, which names nothing
    decide
  | cons e elements =>
    have free : ∀ part ∈ (e :: elements).map Prod.snd, ',' ∉ part := by
      intro part listed
      obtain ⟨e', element, rfl⟩ := List.mem_map.mp listed
      exact (writes e' element).not_mem_comma
    rw [Text.split_join ',' (by simp) free]

end Http

/-! ## Responses -/

namespace Gateway

variable {g : Gateway} {r : Http.Request} {response : Http.Response}

/-- What is reported of an order is a document, compressed if that was wanted. -/
theorem finish_response {wanted : Bool} {session : Session} {run : Run σ Json}
    (finished : (g.finish wanted session run).response = .ok response) :
    response.compressed = wanted ∧ ∃ doc, response.content = .document doc := by
  unfold finish at finished
  cases result : run.result with
  | error fault =>
    rw [result] at finished
    cases finished
  | ok outcome =>
    rw [result] at finished
    cases finished
    cases outcome with
    | error failure => exact ⟨rfl, _, rfl⟩
    | ok doc => exact ⟨rfl, doc, rfl⟩

/-- Documents are compressed if the client takes Brotli, and nothing else is. -/
theorem compressed_serve_iff {out : Outside σ} {world : σ}
    (responded : (g.serve out world r).response = .ok response) :
    response.compressed = true ↔
      (∃ doc, response.content = .document doc) ∧ r.headers.acceptsBrotli = true := by
  have document {inner : Http.Response} {session : Session} {run : Run σ Json}
      (finished : (g.finish r.headers.acceptsBrotli session run).response = .ok inner) :
      inner.compressed = true ↔
        (∃ doc, inner.content = .document doc) ∧ r.headers.acceptsBrotli = true := by
    obtain ⟨compressed, shown⟩ := finish_response finished
    rw [compressed]
    exact ⟨fun wanted => ⟨shown, wanted⟩, fun both => both.2⟩
  have plain {inner : Http.Response} (open' : inner.compressed = false)
      (other : ∀ doc, inner.content ≠ .document doc) :
      inner.compressed = true ↔
        (∃ doc, inner.content = .document doc) ∧ r.headers.acceptsBrotli = true := by
    rw [open']
    constructor
    · intro never
      cases never
    · rintro ⟨⟨doc, shown⟩, -⟩
      exact absurd shown (other doc)
  unfold serve at responded
  cases asked : Order.ofRequest r with
  | error refusal =>
    rw [asked] at responded
    cases responded
    exact plain rfl (by rintro doc ⟨⟩)
  | ok order =>
    rw [asked] at responded
    dsimp only at responded
    cases performed : (g.perform out world r order).response with
    | error fault =>
      rw [performed] at responded
      cases responded
    | ok inner =>
      rw [performed] at responded
      cases responded
      show inner.compressed = true ↔ (∃ doc, inner.content = .document doc) ∧ _
      cases order with
      | health =>
        cases performed
        exact plain rfl (by rintro doc ⟨⟩)
      | showView => exact document performed
      | call c => exact document performed
      | paper location hours => exact document performed
      | alarm trigger => exact document performed

end Gateway

open Http in
/-- For every list of codings with weights, a client is taken to want Brotli exactly if one of the
codings begins with `br`, and exactly then it is sent documents in Brotli.  So it is taken to want
Brotli without asking for it if some coding begins that way while `br` itself is not listed or
refused; and although it asks for it, it is not taken to want it if no coding begins that way, which
leaves `br` with upper case in it. -/
theorem Gateway.brotli_iff_begins {headers : Headers} {name value : String}
    {ps : List Preference}
    (sent : (headers.find? fun (key, _) => key.toLower = "accept-encoding") = some (name, value))
    (lists : Preference.Lists ps value.toList) :
    (headers.acceptsBrotli = true ↔ ∃ p ∈ ps, p.Begins) ∧
    (headers.acceptsBrotli = true ∧ (¬∃ p ∈ ps, p.Wants) ↔
      (∃ p ∈ ps, p.Begins) ∧ ∀ p ∈ ps, p.IsBrotli → p.Refused) ∧
    (headers.acceptsBrotli = false ∧ (∃ p ∈ ps, p.Wants) ↔
      (∀ p ∈ ps, ¬p.Begins) ∧ ∃ p ∈ ps, p.IsBrotli ∧ ¬p.Refused) ∧
    ∀ {σ : Type} (g : Gateway) (out : Outside σ) (world : σ) (r : Request) (response : Response),
      r.headers = headers → (g.serve out world r).response = .ok response →
      (response.compressed = true ↔
        (∃ doc, response.content = .document doc) ∧ ∃ p ∈ ps, p.Begins) := by
  have accepts_iff := Headers.acceptsBrotli_iff_begins sent lists
  refine ⟨accepts_iff, ?_, ?_, ?_⟩
  · rw [accepts_iff]
    refine and_congr_right fun _ => ?_
    constructor
    · intro noneWants p mem isBrotli
      by_contra notRefused
      exact noneWants ⟨p, mem, isBrotli, notRefused⟩
    · rintro allRefused ⟨p, mem, isBrotli, notRefused⟩
      exact notRefused (allRefused p mem isBrotli)
  · rw [← Bool.not_eq_true, accepts_iff]
    refine and_congr ?_ Iff.rfl
    simp only [not_exists, not_and]
  · rintro σ g out world r response rfl responded
    rw [compressed_serve_iff responded, accepts_iff]

/-- A request for the view by a client that lists some codings. -/
def Http.Request.showViewIn (codings : String) : Http.Request :=
  ⟨.get, "/session/view", none, [("Accept-Encoding", codings)], ""⟩

/-- To take a document as it is, or half as gladly in Brotli. -/
def Http.Preference.halfGladly : List Http.Preference :=
  [⟨"identity".toList, some "0.5".toList⟩, ⟨"br".toList, some "0.250".toList⟩]

theorem Http.Preference.lists_halfGladly :
    Lists halfGladly "identity;q=0.5,\tbr ; Q=0.250".toList := by
  refine ⟨[(⟨"identity".toList, some "0.5".toList⟩, "identity;q=0.5".toList),
    (⟨"br".toList, some "0.250".toList⟩, "\tbr ; Q=0.250".toList)], ?_, rfl, by decide +kernel⟩
  intro e element
  simp only [List.mem_cons, List.not_mem_nil, or_false] at element
  rcases element with rfl | rfl
  · exact .weighted [] _ [] [] 'q' _ [] (by decide) (List.all_eq_true.mp (by decide)) (by decide)
      (by decide) (by decide) (by decide)
  · exact .weighted ['\t'] _ [' '] [' '] 'Q' _ [] (by decide) (List.all_eq_true.mp (by decide))
      (by decide) (by decide) (by decide) (by decide)

theorem Gateway.brotli_iff_begins_halfGladly :
    (∃ p ∈ Http.Preference.halfGladly, p.Wants) ∧
    (Http.Request.showViewIn "identity;q=0.5,\tbr ; Q=0.250").headers.acceptsBrotli = true ∧
    ∃ response, (opened.serve .silent ()
        (.showViewIn "identity;q=0.5,\tbr ; Q=0.250")).response = .ok response ∧
      response.compressed = true := by
  have served := serve_get_view (g := opened) .silent ()
    (r := .showViewIn "identity;q=0.5,\tbr ; Q=0.250") rfl rfl
  have sent : ((Http.Request.showViewIn "identity;q=0.5,\tbr ; Q=0.250").headers.find?
      fun (key, _) => key.toLower = "accept-encoding") =
      some ("Accept-Encoding", "identity;q=0.5,\tbr ; Q=0.250") := by decide +kernel
  obtain ⟨accepts_iff, -, -, compressed_iff⟩ :=
    brotli_iff_begins sent Http.Preference.lists_halfGladly
  have begins : ∃ p ∈ Http.Preference.halfGladly, p.Begins := by decide +kernel
  have responded := congrArg Served.response served
  exact ⟨by decide +kernel, accepts_iff.mpr begins, _, responded,
    (compressed_iff opened .silent () _ _ rfl responded).mpr ⟨⟨_, rfl⟩, begins⟩⟩

/-- Brotli that is refused is sent all the same, and Brotli that is asked for in upper case is
not. -/
theorem Gateway.brotli_against_wishes :
    (∃ ps, Http.Preference.Lists ps "br;q=0".toList ∧ (¬∃ p ∈ ps, p.Wants) ∧
      (Http.Request.showViewIn "br;q=0").headers.acceptsBrotli = true ∧
      ∃ response, (opened.serve .silent () (.showViewIn "br;q=0")).response = .ok response ∧
        response.compressed = true) ∧
    ∃ ps, Http.Preference.Lists ps "BR".toList ∧ (∃ p ∈ ps, p.Wants) ∧
      (Http.Request.showViewIn "BR").headers.acceptsBrotli = false := by
  have accepts : (Http.Request.showViewIn "br;q=0").headers.acceptsBrotli = true := by
    decide +kernel
  have refused : Http.Preference.Lists [⟨"br".toList, some "0".toList⟩] "br;q=0".toList := by
    refine ⟨[(⟨"br".toList, some "0".toList⟩, "br;q=0".toList)], ?_, rfl, by decide +kernel⟩
    intro e element
    rw [List.mem_singleton.mp element]
    exact .weighted [] _ [] [] 'q' _ [] (by decide) (List.all_eq_true.mp (by decide)) (by decide)
      (by decide) (by decide) (by decide)
  have upperCase : Http.Preference.Lists [⟨"BR".toList, none⟩] "BR".toList := by
    refine ⟨[(⟨"BR".toList, none⟩, "BR".toList)], ?_, rfl, by decide +kernel⟩
    intro e element
    rw [List.mem_singleton.mp element]
    exact .bare [] _ [] (by decide) (List.all_eq_true.mp (by decide)) (by decide)
  refine ⟨⟨_, refused, by decide +kernel, accepts, ?_⟩, _, upperCase, by decide +kernel,
    by decide +kernel⟩
  have served := serve_get_view (g := opened) .silent () (r := .showViewIn "br;q=0") rfl rfl
  exact ⟨_, congrArg Served.response served, accepts⟩

end HouseholdDashboard
