import HouseholdDashboard.Proofs.Gateway.View
import HouseholdDashboard.Proofs.Json.Text

/-!
# Changing the view by a document or by a query

A view can be changed by a query or by a document in the body.  The parameters of a query count
each on its own (`View.following`): one that is not valid leaves its part of the view alone.  A
document counts as a whole: a tab that is none, or hours that are no number of 32 bits, spoil it,
and then nothing is changed at all.  Hours that are not on the menu spoil nothing.
-/

namespace HouseholdDashboard

/-! ## What the parameters ask for -/

/-- The view after a change by a tab and hours that count each on its own. -/
def View.following (v : View) (tab : String) (hours : Int) : View where
  tab := (Tab.ofName? tab).getD v.tab
  hours := if 0 ≤ hours ∧ hours.toNat ∈ menu then hours.toNat else v.hours

/-- Whether a document with a tab and hours can be read. -/
def ViewChange.Readable (tab : String) (hours : Int) : Prop :=
  (Tab.ofName? tab).isSome = true ∧ 0 ≤ hours ∧ hours < Nat.pow 2 32

instance (tab : String) (hours : Int) : Decidable (ViewChange.Readable tab hours) :=
  inferInstanceAs (Decidable (_ ∧ _))

/-- The hours that the text of a whole number names. -/
theorem View.hours?_toString_int (hours : Int) :
    hours? (toString hours) =
      if 0 ≤ hours ∧ hours.toNat ∈ menu then some hours.toNat else none := by
  by_cases negative : hours < 0
  · rw [hours?, Decimal.unsigned?_neg negative, if_neg fun offered => by omega]
    rfl
  · have natural : toString hours = toString hours.toNat := by
      rw [Int.toString_eq_repr, Int.repr_eq_if, if_pos (by omega)]
      rfl
    have whole : 0 ≤ hours := by omega
    rw [hours?, natural, Decimal.unsigned?_toString, Option.filter_some]
    simp only [whole, true_and, List.contains_iff_mem]

theorem Session.setHours_view (s : Session) (hours : Nat) :
    (s.setHours hours).1.view =
      ⟨s.view.tab, if hours ∈ View.menu then hours else s.view.hours⟩ := by
  rw [setHours_eq]
  by_cases listed : hours ∈ View.menu
  · by_cases same : hours = s.view.hours
    · rw [if_neg (fun new => new.2 same), if_pos listed, same]
    · rw [if_pos ⟨listed, same⟩, if_pos listed]
  · rw [if_neg (fun new => listed new.1), if_neg listed]

/-- A change takes over its tab, and its hours if they are on the menu. -/
theorem Stage.changeView_view (s : Session) (tab : Option Tab) (hours : Option Nat) :
    (changeView s ⟨tab, hours⟩).1.view = ⟨tab.getD s.view.tab,
      (hours.filter (· ∈ View.menu)).getD s.view.hours⟩ := by
  cases hours with
  | none => cases tab <;> rfl
  | some n =>
    rw [Option.filter_some]
    cases tab <;> refine (Session.setHours_view _ n).trans ?_ <;> by_cases listed : n ∈ View.menu
    all_goals simp [listed, Session.setTab]

/-- What is asked for by parameters is followed one by one. -/
theorem Stage.changeView_query (s : Session) (tab : String) (hours : Int) :
    (changeView s ⟨Tab.ofName? tab, View.hours? (toString hours)⟩).1.view =
      s.view.following tab hours := by
  rw [changeView_view, View.hours?_toString_int, View.following]
  by_cases offered : 0 ≤ hours ∧ hours.toNat ∈ View.menu
  · simp [offered, Option.filter_some]
  · simp only [if_neg offered, Option.filter_none, Option.getD_none]

theorem Stage.changeView_document (s : Session) (tab : String) {hours : Int}
    (natural : 0 ≤ hours) :
    (changeView s ⟨Tab.ofName? tab, some hours.toNat⟩).1.view = s.view.following tab hours := by
  rw [changeView_view, View.following, Option.filter_some]
  by_cases offered : hours.toNat ∈ View.menu <;> simp [natural, offered]

/-! ## What a document sets -/

namespace ViewChange

open Json.Reader

/-- A document with a tab and hours. -/
def document (tab : String) (hours : Int) : Json.FlatMembers :=
  [("tab", .text tab), ("hours", .whole hours)]

/-- Numbers of 32 bits are whole numbers as far as a document is concerned. -/
theorem hours_small : Nat.pow 2 32 ≤ Nat.pow 2 64 := by decide

/-- A word that is no tab spoils a document. -/
theorem once_tab (tab : String) :
    once none (nullable (word Tab.ofName?)) (.string (some tab)) =
      match Tab.ofName? tab with
      | some t => .ok (some (some t))
      | none => .error .mismatch := by
  simp only [once, nullable, word]
  cases Tab.ofName? tab <;> rfl

theorem once_hours (hours : Int) :
    once none (nullable (natBelow (Nat.pow 2 32))) (.number (Json.Scalar.spelled hours)) =
      (natBelow (Nat.pow 2 32) (.number (Json.Scalar.spelled hours))).map (some <| some ·) := by
  simp only [once, nullable]
  cases natBelow (Nat.pow 2 32) (.number (Json.Scalar.spelled hours)) <;> rfl

/-- A document is read as a whole, its tab first and then its hours. -/
theorem read_document (tab : String) (hours : Int) :
    read (document tab hours).draft =
      match Tab.ofName? tab with
      | some t => (natBelow (Nat.pow 2 32) (.number (Json.Scalar.spelled hours))).map
          fun n => ⟨some t, some n⟩
      | none => .error .mismatch := by
  simp only [read, slots, members, document, Json.FlatMembers.draft, Json.Scalar.draft,
    List.map_cons, List.map_nil, bind, Except.bind, List.foldlM_cons, List.foldlM_nil, once_tab]
  cases Tab.ofName? tab with
  | none => rfl
  | some t =>
    simp only [pure, Except.pure, once_hours]
    cases natBelow (Nat.pow 2 32) (.number (Json.Scalar.spelled hours)) <;> rfl

/-- A document that can be read asks for its tab and its hours. -/
theorem read_document_of_readable {tab : String} {hours : Int} (readable : Readable tab hours) :
    read (document tab hours).draft = .ok ⟨Tab.ofName? tab, some hours.toNat⟩ := by
  obtain ⟨named, fits⟩ := readable
  obtain ⟨t, named⟩ := Option.isSome_iff_exists.mp named
  rcases natBelow_spelled hours_small hours with ⟨within, _⟩ | ⟨_, unfit⟩
  · rw [read_document, named, within]
    rfl
  · exact absurd fits unfit

theorem read_document_of_not_readable {tab : String} {hours : Int}
    (unreadable : ¬Readable tab hours) :
    ∃ fault, read (document tab hours).draft = .error fault := by
  rw [read_document]
  cases named : Tab.ofName? tab with
  | none => exact ⟨_, rfl⟩
  | some t =>
    rcases natBelow_spelled hours_small hours with ⟨_, fits⟩ | ⟨⟨fault, beyond⟩, _⟩
    · exact absurd ⟨by rw [named]; rfl, fits⟩ unreadable
    · exact ⟨fault, by rw [beyond]; rfl⟩

end ViewChange

/-! ## Requests -/

namespace Http.Request

/-- Whether a request changes the view by a document in its body, however that is spaced. -/
structure SendsView (r : Http.Request) (tab : String) (hours : Int) : Prop where
  post : r.method = .post
  path : r.path = Resource.view.path
  noQuery : r.query = none
  labelled : r.saysJson = true
  body : Json.Draft.ofText r.body = (ViewChange.document tab hours).draft

/-- Whether a request changes the view by its query, however that is encoded. -/
structure AsksView (r : Http.Request) (tab : String) (hours : Int) : Prop where
  post : r.method = .post
  path : r.path = Resource.view.path
  query : Query.parameters (r.query.getD "") = [("tab", tab), ("hours", toString hours)]
  noBody : r.body = ""

/-- To send a tab and hours. -/
def sendingView (tab : String) (hours : Int) : Http.Request where
  method := .post
  path := Resource.view.path
  query := none
  headers := [("content-type", "application/json")]
  body := (Json.object [("tab", .string tab), ("hours", .int hours)]).printed

/-- To ask for a tab and hours. -/
def askingView (tab : String) (hours : Int) : Http.Request where
  method := .post
  path := Resource.view.path
  query := some (Query.render [("tab", tab), ("hours", toString hours)])
  headers := []
  body := ""

/-- A plain label is enough. -/
theorem saysJson_of_headers {r : Http.Request}
    (plain : r.headers = [("content-type", "application/json")]) : r.saysJson = true := by
  have value : Headers.value? [("content-type", "application/json")] "content-type" =
      some "application/json" := by decide +kernel
  have isJson : (MediaType.ofText? "application/json").any MediaType.isJson = true := by
    decide +kernel
  rw [saysJson, plain, value]
  exact isJson

theorem sendsView_sendingView (tab : String) (hours : Int) :
    (sendingView tab hours).SendsView tab hours where
  post := rfl
  path := rfl
  noQuery := rfl
  labelled := saysJson_of_headers rfl
  body := Json.FlatMembers.ofText_printed (ViewChange.document tab hours)

theorem asksView_askingView (tab : String) (hours : Int) :
    (askingView tab hours).AsksView tab hours where
  post := rfl
  path := rfl
  query := Query.parameters_render _
  noBody := rfl

variable {r : Http.Request} {tab : String} {hours : Int}

/-- What a request sends counts if all of it can be read. -/
theorem SendsView.viewChange (sends : r.SendsView tab hours) :
    (ViewChange.Readable tab hours →
      Order.viewChange r = ⟨Tab.ofName? tab, some hours.toNat⟩) ∧
    (¬ViewChange.Readable tab hours → Order.viewChange r = {}) := by
  refine ⟨fun readable => ?_, fun unreadable => ?_⟩
  · rw [Order.viewChange, document, sends.labelled, sends.body,
      ViewChange.read_document_of_readable readable]
    rfl
  · obtain ⟨fault, read⟩ := ViewChange.read_document_of_not_readable unreadable
    rw [Order.viewChange, document, sends.labelled, sends.body, read, sends.noQuery]
    cases fault <;> rfl

/-- Without a body, a request changes the view by its query. -/
theorem AsksView.viewChange (asks : r.AsksView tab hours) :
    Order.viewChange r = ⟨Tab.ofName? tab, View.hours? (toString hours)⟩ := by
  have noDocument : ∃ fault, r.document ViewChange.read = .error fault := by
    have empty : Json.Draft.ofText "" = .broken := by
      have none : Json.Token.ofText "" = [] := Json.Token.Scans.ofText (by exact .nil)
      rw [Json.Draft.ofText, none, Json.Draft.build]
      rfl
    rw [document, asks.noBody, empty]
    cases r.saysJson <;> exact ⟨_, rfl⟩
  obtain ⟨fault, noDocument⟩ := noDocument
  rw [Order.viewChange, noDocument]
  show ViewChange.ofQuery _ = _
  rw [ViewChange.ofQuery, asks.query]
  rfl

end Http.Request

namespace Gateway

variable {g : Gateway} {r : Http.Request} {tab : String} {hours : Int}

/-- The view is changed whatever becomes of the fetch. -/
theorem view_serve_post_view (out : Outside σ) (world : σ) (path : r.path = Resource.view.path)
    (post : r.method = .post) :
    (g.serve out world r).gateway.session.view =
      (Stage.changeView g.session (Order.viewChange r)).1.view := by
  rw [(serve_call out world (ofRequest_post_view path post)).1]
  exact (Stage.run_change out g.session world _).1

theorem view_serve_asksView (out : Outside σ) (world : σ) (asks : r.AsksView tab hours) :
    (g.serve out world r).gateway.session.view = g.session.view.following tab hours := by
  rw [view_serve_post_view out world asks.path asks.post, asks.viewChange,
    Stage.changeView_query]

theorem view_serve_sendsView (out : Outside σ) (world : σ) (sends : r.SendsView tab hours) :
    (g.serve out world r).gateway.session.view =
      if ViewChange.Readable tab hours then g.session.view.following tab hours
      else g.session.view := by
  rw [view_serve_post_view out world sends.path sends.post]
  split
  · rename_i readable
    rw [sends.viewChange.1 readable, Stage.changeView_document _ _ readable.2.1]
  · rename_i unreadable
    rw [sends.viewChange.2 unreadable]
    rfl

end Gateway

open Http.Request in
/-- A tab and hours sent in a body change the view as the same asked for by a query exactly if the
body can be read as a whole, or the query changes nothing. -/
theorem Gateway.body_agrees_with_query_iff (tab : String) (hours : Int) :
    (sendingView tab hours).SendsView tab hours ∧ (askingView tab hours).AsksView tab hours ∧
    ∀ {σ : Type} (g : Gateway) (out out' : Outside σ) (world world' : σ)
      (sent asked : Http.Request), sent.SendsView tab hours → asked.AsksView tab hours →
      let before := g.session.view
      let bySent := (g.serve out world sent).gateway.session.view
      let byAsked := (g.serve out' world' asked).gateway.session.view
      byAsked = before.following tab hours ∧
      bySent = (if ViewChange.Readable tab hours then before.following tab hours else before) ∧
      (bySent = byAsked ↔
        ViewChange.Readable tab hours ∨ before.following tab hours = before) := by
  refine ⟨sendsView_sendingView tab hours, asksView_askingView tab hours, ?_⟩
  intro σ g out out' world world' sent asked sends asks
  have byAsked := g.view_serve_asksView out' world' asks
  have bySent := g.view_serve_sendsView out world sends
  refine ⟨byAsked, bySent, ?_⟩
  show (g.serve out world sent).gateway.session.view =
    (g.serve out' world' asked).gateway.session.view ↔ _
  rw [byAsked, bySent]
  by_cases readable : ViewChange.Readable tab hours
  · simp only [readable, if_true, true_or]
  · simp only [readable, if_false, false_or]
    exact eq_comm

/-- Hours that are not on the menu spoil nothing. -/
theorem Gateway.body_agrees_with_query_offMenu :
    ViewChange.Readable "solar" 5 ∧
    (opened.serve .silent () (.sendingView "solar" 5)).gateway.session.view = ⟨.solar, 12⟩ ∧
    (opened.serve .silent () (.askingView "solar" 5)).gateway.session.view = ⟨.solar, 12⟩ := by
  have readable : ViewChange.Readable "solar" 5 := by decide +kernel
  have followed : opened.session.view.following "solar" 5 = ⟨.solar, 12⟩ := by decide +kernel
  obtain ⟨sends, asks, agree⟩ := body_agrees_with_query_iff "solar" 5
  obtain ⟨byAsked, -, same⟩ := agree opened .silent .silent () () _ _ sends asks
  have byAsked := byAsked.trans followed
  exact ⟨readable, (same.mpr (.inl readable)).trans byAsked, byAsked⟩

/-- A tab that is none spoils the hours that are sent with it, but not those that are asked for. -/
theorem Gateway.body_differs_from_query :
    (opened.serve .silent () (.sendingView "bogus" 24)).gateway.session.view = ⟨.overview, 12⟩ ∧
    (opened.serve .silent () (.askingView "bogus" 24)).gateway.session.view = ⟨.overview, 24⟩ := by
  have unreadable : ¬ViewChange.Readable "bogus" 24 := by decide +kernel
  have followed : opened.session.view.following "bogus" 24 = ⟨.overview, 24⟩ := by decide +kernel
  refine ⟨?_, ?_⟩
  · rw [view_serve_sendsView .silent () (Http.Request.sendsView_sendingView "bogus" 24),
      if_neg unreadable]
    rfl
  · rw [view_serve_asksView .silent () (Http.Request.asksView_askingView "bogus" 24), followed]

end HouseholdDashboard
