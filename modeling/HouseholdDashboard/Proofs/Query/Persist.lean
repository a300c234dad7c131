import Mathlib.Data.List.TakeWhile
import HouseholdDashboard.View
import HouseholdDashboard.Proofs.Text.Percent

/-!
# A query keeps what it carries

`Query.parameters_render`: rendering a list of parameters and reading them again gives the same
list, whatever the keys and values are.  A query itself need not come back from its parameters,
since escapes that decode to no text stay as written and are escaped once more; but what it says
does.  So `View.parameters_persist`: a view that is written into any query replaces the view that
was there and nothing else.
-/

namespace HouseholdDashboard

namespace Text

/-! ## Joined parts are split again -/

theorem split_append (separator : Char) {part : List Char} (free : separator ∉ part)
    (rest : List Char) :
    split separator (part ++ separator :: rest) = part :: split separator rest := by
  induction part with
  | nil => simp only [List.nil_append, split, if_pos]
  | cons c part ih =>
    rw [List.mem_cons, not_or] at free
    rw [List.cons_append, split, if_neg (Ne.symm free.1), ih free.2]

theorem split_of_not_mem (separator : Char) {part : List Char} (free : separator ∉ part) :
    split separator part = [part] := by
  induction part with
  | nil => rfl
  | cons c part ih =>
    rw [List.mem_cons, not_or] at free
    rw [split, if_neg (Ne.symm free.1), ih free.2]

/-- The parts of a joined text are the joined parts, if none of them has a separator in it. -/
theorem split_join (separator : Char) {parts : List (List Char)} (some_part : parts ≠ [])
    (free : ∀ part ∈ parts, separator ∉ part) : split separator (join separator parts) = parts := by
  induction parts with
  | nil => exact absurd rfl some_part
  | cons part parts ih =>
    have here := free part List.mem_cons_self
    cases parts with
    | nil => exact split_of_not_mem separator here
    | cons next parts =>
      rw [join, split_append separator here,
        ih (List.cons_ne_nil _ _) fun p mem => free p (List.mem_cons_of_mem part mem)]
      exact List.cons_ne_nil _ _

/-- A joined text has the characters of its parts and separators, no others. -/
theorem mem_join {separator c : Char} {parts : List (List Char)}
    (mem : c ∈ join separator parts) : c = separator ∨ ∃ part ∈ parts, c ∈ part := by
  induction parts with
  | nil => exact absurd mem List.not_mem_nil
  | cons part parts ih =>
    cases parts with
    | nil => exact .inr ⟨part, List.mem_cons_self, mem⟩
    | cons next parts =>
      rw [join, List.mem_append, List.mem_cons] at mem
      · rcases mem with here | between | later
        · exact .inr ⟨part, List.mem_cons_self, here⟩
        · exact .inl between
        · refine (ih later).imp_right ?_
          rintro ⟨p, mem, inside⟩
          exact ⟨p, List.mem_cons_of_mem part mem, inside⟩
      · exact List.cons_ne_nil _ _

end Text

namespace Query

/-! ## Parameters as they are written -/

/-- The characters that mean something in a query. -/
def reserved : List Char := ['&', '=', '+', '?']

theorem not_mem_encode {c : Char} (special : c ∈ reserved) (s : String) :
    c ∉ (Text.Percent.encode s).toList := by
  have clear : ∀ b : UInt8, (b = 0x25 ∨ Text.Percent.isPlain b = true) →
      Char.ofNat b.toNat ∉ reserved := Text.forall_byte (by decide +kernel)
  intro mem
  obtain ⟨b, plain, rfl⟩ := Text.Percent.mem_encode mem
  exact clear b plain special

/-- Text without plus signs is not changed. -/
theorem spaced_of_not_mem {cs : List Char} (free : '+' ∉ cs) : spaced cs = String.ofList cs := by
  rw [spaced]
  congr 1
  refine (List.map_congr_left fun c mem => if_neg ?_).trans (List.map_id cs)
  rintro rfl
  exact free mem

theorem decode_encode (s : String) : decode (Text.Percent.encode s).toList = s := by
  rw [decode, spaced_of_not_mem (not_mem_encode (by decide) s), String.ofList_toList,
    Text.Percent.decode?_encode, Option.getD_some]

theorem parameter_renderParameter (p : Parameter) : parameter (renderParameter p) = p := by
  rw [parameter, renderParameter,
    Text.splitFirst_append '=' (not_mem_encode (by decide) p.1)]
  exact Prod.ext (decode_encode p.1) (decode_encode p.2)

theorem not_mem_renderParameter {c : Char} (special : c ∈ reserved) (other : c ≠ '=')
    (p : Parameter) : c ∉ renderParameter p := by
  rw [renderParameter, List.mem_append, List.mem_cons]
  rintro (key | equals | value)
  · exact not_mem_encode special p.1 key
  · exact other equals
  · exact not_mem_encode special p.2 value

theorem renderParameter_ne_nil (p : Parameter) : renderParameter p ≠ [] :=
  List.append_ne_nil_of_right_ne_nil _ (List.cons_ne_nil _ _)

/-- No question mark of a rendered query is taken for its beginning: it has none. -/
theorem dropWhile_render (ps : List Parameter) :
    (render ps).toList.dropWhile (· = '?') = Text.join '&' (ps.map renderParameter) := by
  rw [render, String.toList_ofList]
  refine List.dropWhile_eq_self_iff.mpr fun long mark => ?_
  have first : '?' ∈ Text.join '&' (ps.map renderParameter) :=
    of_decide_eq_true mark ▸ List.getElem_mem long
  rcases Text.mem_join first with separator | ⟨part, mem, inside⟩
  · exact absurd separator (by decide)
  · obtain ⟨p, -, rfl⟩ := List.mem_map.mp mem
    exact not_mem_renderParameter (by decide) (by decide) p inside

/-- What is rendered is read again. -/
theorem parameters_render (ps : List Parameter) : parameters (render ps) = ps := by
  rw [parameters, dropWhile_render]
  cases ps with
  | nil => rfl
  | cons p ps =>
    have some_part : (p :: ps).map renderParameter ≠ [] := List.cons_ne_nil _ _
    have free : ∀ part ∈ (p :: ps).map renderParameter, '&' ∉ part :=
      List.forall_mem_map.mpr fun q _ => not_mem_renderParameter (by decide) (by decide) q
    have nonempty : ∀ part ∈ (p :: ps).map renderParameter, (!part.isEmpty) = true :=
      List.forall_mem_map.mpr fun q _ => by
        rw [List.isEmpty_eq_false_iff.mpr (renderParameter_ne_nil q), Bool.not_false]
    have read_back : parameter ∘ renderParameter = id := funext parameter_renderParameter
    rw [Text.split_join '&' some_part free, List.filter_eq_self.mpr nonempty, List.map_map,
      read_back, List.map_id]

end Query

namespace View

/-! ## Writing a view -/

/-- The parameters of a query that do not name a view. -/
def others (query : String) : List Query.Parameter :=
  (Query.parameters query).filter fun p => p.1 ≠ "tab" && p.1 ≠ "hours"

theorem parameters_persist (v : View) (query : String) :
    Query.parameters (v.persist query) = others query ++ v.parameters :=
  Query.parameters_render _

theorem others_persist (v : View) (query : String) : others (v.persist query) = others query := by
  have kept : (others query).filter (fun p => p.1 ≠ "tab" && p.1 ≠ "hours") = others query := by
    rw [others, List.filter_filter]
    simp only [Bool.and_self]
  rw [others, parameters_persist, List.filter_append, kept]
  exact List.append_nil _

/-- Only the last view that is written into a query is in it. -/
theorem persist_persist (v w : View) (query : String) :
    w.persist (v.persist query) = w.persist query :=
  congrArg (fun ps => Query.render (ps ++ w.parameters)) (others_persist v query)

/-- A view that is written into a query replaces the view there; every other parameter keeps its
place, its key and its value. -/
theorem persist_replaces_view (v : View) (query : String) :
    Query.parameters (v.persist query) =
      ((Query.parameters query).filter fun p => p.1 ≠ "tab" && p.1 ≠ "hours") ++
        [("tab", v.tab.name), ("hours", toString v.hours)] ∧
    v.persist (v.persist query) = v.persist query ∧
    ∀ w : View, w.persist (v.persist query) = w.persist query :=
  ⟨parameters_persist v query, persist_persist v v query, fun w => persist_persist v w query⟩

-- The escape that is no text is escaped once more, and still reads as the same three characters.
example : (View.mk .solar 24).persist "?b+c=%ff&tab=x" = "b%20c=%25ff&tab=solar&hours=24" := by
  decide +kernel

end View

end HouseholdDashboard
