import HouseholdDashboard.Gateway.Basic
import HouseholdDashboard.Proofs.Query.Change
import HouseholdDashboard.Proofs.Session.Frame
import HouseholdDashboard.Proofs.Session.Reachable

/-!
# The view in a query

A gateway shows its view together with a query in which the view is to be kept.  That query brings
the view back: it is read as the same view, and posting it changes nothing and fetches nothing
(`Gateway.Restores`).  All this rests on the hours of a view, which are always on the menu, however
they were asked for (`Session.Reachable.hours_mem`).
-/

namespace HouseholdDashboard

/-! ## Hours are on the menu -/

namespace Session

theorem setHours_mem {s : Session} (listed : s.view.hours ∈ View.menu) (hours : Nat) :
    (s.setHours hours).1.view.hours ∈ View.menu := by
  rw [setHours_eq]
  split
  · rename_i new
    exact new.1
  · exact listed

theorem operate_hours_mem {s s' : Session} (listed : s.view.hours ∈ View.menu) {op : Operation}
    (became : s.operate op = .ok s') : s'.view.hours ∈ View.menu := by
  cases op with
  | setTab tab => cases became; exact listed
  | setHours hours => cases became; exact setHours_mem listed hours
  | begin now => cases operate_begin_eq became; exact listed
  | finish ticket snapshot => cases became; exact listed
  | fail ticket => cases became; exact listed
  | ask q now =>
    obtain ⟨visibility, viewport, moved⟩ := q.answer_frame s now
    rw [← answer_of_operate became, moved]
    exact listed

theorem Reachable.hours_mem {start s : Session} (reachable : Reachable start s)
    (listed : start.view.hours ∈ View.menu) : s.view.hours ∈ View.menu := by
  induction reachable with
  | start => exact listed
  | operate op _ became ih => exact operate_hours_mem ih became

end Session

namespace Stage

theorem changeView_hours_mem {s : Session} (listed : s.view.hours ∈ View.menu) (c : ViewChange) :
    (changeView s c).1.view.hours ∈ View.menu := by
  obtain ⟨tab, hours⟩ := c
  cases hours with
  | none => cases tab <;> exact listed
  | some hours => cases tab <;> exact Session.setHours_mem (by exact listed) hours

/-- To change a view to itself changes nothing, and its hours are not new. -/
theorem changeView_self (s : Session) :
    changeView s ⟨some s.view.tab, some s.view.hours⟩ = (s, false) := by
  have kept : s.setTab s.view.tab = s := rfl
  show (s.setTab s.view.tab).setHours s.view.hours = (s, false)
  rw [kept, Session.setHours, if_pos rfl]

/-! ## Calls that change the view -/

/-- A fetch for a view leaves the session's view alone, and answers with no other than its own. -/
theorem run_begin_view (out : Outside σ) (s : Session) (world : σ) (v : View) :
    ((begin (.view v)).run out s world).1.view = s.view ∧
      ∀ a, ((begin (.view v)).run out s world).2.result = .ok (.ok a) → a = .view v := by
  rw [run]
  simp only [step, Session.beginRefresh]
  cases s.view.since? (out.now world) with
  | none =>
    rw [run]
    exact ⟨rfl, fun a crashed => by cases crashed⟩
  | some since =>
    dsimp only
    rw [run]
    rcases out.fetch since world with ⟨outcome, world'⟩
    dsimp only
    rw [run]
    cases outcome with
    | error failure =>
      simp only [step]
      rw [run]
      exact ⟨rfl, fun a failed => by cases failed⟩
    | ok snapshot =>
      simp only [step, next]
      rw [run]
      exact ⟨rfl, fun a answered => by cases answered; rfl⟩

theorem run_change (out : Outside σ) (s : Session) (world : σ) (c : ViewChange) :
    ((change c).run out s world).1.view = (changeView s c).1.view ∧
      ∀ a, ((change c).run out s world).2.result = .ok (.ok a) →
        a = .view (changeView s c).1.view := by
  rw [run]
  simp only [step]
  rcases changeView s c with ⟨s', isNew⟩
  cases isNew with
  | true => exact run_begin_view out s' world s'.view
  | false =>
    rw [if_neg Bool.false_ne_true, run]
    exact ⟨rfl, fun a answered => by cases answered; rfl⟩

/-- A change that brings nothing new is answered at once. -/
theorem run_change_self (out : Outside σ) (s : Session) (world : σ) :
    (change ⟨some s.view.tab, some s.view.hours⟩).run out s world =
      (s, .still world (.ok (.view s.view))) := by
  rw [run]
  simp only [step, changeView_self]
  rw [if_neg Bool.false_ne_true, run]

end Stage

/-! ## Requests -/

namespace Gateway

variable {g : Gateway} {r : Http.Request}

/-- A view is shown as a document of itself and of the query in which it is to be kept. -/
theorem serve_get_view (out : Outside σ) (world : σ) (path : r.path = Resource.view.path)
    (get : r.method = .get) :
    g.serve out world r = ⟨g, world, [],
      .ok (.json 200 (viewJson g.session.view r.query) r.headers.acceptsBrotli)⟩ := by
  have found : Resource.ofPath? r.path = some .view := by rw [path]; decide
  have order : Order.ofRequest r = .ok .showView := by
    simp only [Order.ofRequest, found, get, Order.ofGet]
  simp only [serve, order, perform, finish, Run.still, get]
  rfl

theorem ofRequest_post_view (path : r.path = Resource.view.path) (post : r.method = .post) :
    Order.ofRequest r = .ok (.call (.setView (Order.viewChange r))) := by
  have found : Resource.ofPath? r.path = some .view := by rw [path]; decide
  simp only [Order.ofRequest, found, post, Order.ofPost]

theorem failureStatus_ne (f : Failure) : failureStatus f ≠ 200 := by
  unfold failureStatus
  split <;> decide

/-- What a call comes to is what the gateway responds with. -/
theorem serve_call (out : Outside σ) (world : σ) {call : Call}
    (order : Order.ofRequest r = .ok (.call call)) :
    (g.serve out world r).gateway = { g with session := (call.run out g.session world).1 } ∧
      (g.serve out world r).attempts = (call.run out g.session world).2.attempts ∧
      (g.serve out world r).response =
        ((call.run out g.session world).2.result.map fun result =>
          { respond r.headers.acceptsBrotli (result.map (answerJson r.query)) with
            headersOnly := r.method = .head }) := by
  simp only [serve, order, perform, finish, Run.map, true_and]
  cases (call.run out g.session world).2.result <;> rfl

/-- A change of the view that succeeds is answered with the view that the session then has. -/
theorem serve_post_view (out : Outside σ) (world : σ) (path : r.path = Resource.view.path)
    (post : r.method = .post) {response : Http.Response}
    (served : (g.serve out world r).response = .ok response) (success : response.status = 200) :
    (g.serve out world r).gateway.session.view =
        (Stage.changeView g.session (Order.viewChange r)).1.view ∧
      response.content =
        .document (viewJson (g.serve out world r).gateway.session.view r.query) := by
  obtain ⟨view, answers⟩ := Stage.run_change out g.session world (Order.viewChange r)
  obtain ⟨gateway, _, responded⟩ :=
    serve_call (g := g) out world (ofRequest_post_view path post)
  rw [served] at responded
  rw [gateway]
  refine ⟨view, ?_⟩
  have called : (Call.setView (Order.viewChange r)).run out g.session world =
    (Stage.change (Order.viewChange r)).run out g.session world := rfl
  rw [called] at responded ⊢
  cases result : ((Stage.change (Order.viewChange r)).run out g.session world).2.result with
  | error fault =>
    rw [result] at responded
    cases responded
  | ok outcome =>
    rw [result] at responded
    cases responded
    cases outcome with
    | error failure => exact absurd success (failureStatus_ne failure)
    | ok answer =>
      rw [answers answer result, ← view]
      rfl

/-! ## Queries that bring a view back -/

/-- Whether a query brings the view of a gateway back: it is read as that view, and what it sets
changes nothing.  To post it is answered at once, without a fetch. -/
structure Restores (g : Gateway) (query : String) : Prop where
  read_back : View.ofQuery query = g.session.view
  unchanged : Stage.changeView g.session (ViewChange.ofQuery query) = (g.session, false)
  posted : ∀ {σ : Type} (out : Outside σ) (world : σ) (r : Http.Request),
    r.method = .post → r.path = Resource.view.path → r.query = some query →
    (∃ fault, r.document ViewChange.read = .error fault) →
    g.serve out world r = ⟨g, world, [],
      .ok (.json 200 (viewJson g.session.view (some query)) r.headers.acceptsBrotli)⟩

theorem restores_persist (listed : g.session.view.hours ∈ View.menu) (query : String) :
    g.Restores (g.session.view.persist query) where
  read_back := View.ofQuery_persist listed query
  unchanged := by
    rw [ViewChange.ofQuery_persist listed]
    exact Stage.changeView_self g.session
  posted := by
    intro σ out world r post path asked ⟨fault, noBody⟩
    have change : Order.viewChange r = ⟨some g.session.view.tab, some g.session.view.hours⟩ := by
      rw [Order.viewChange, noBody, asked]
      exact ViewChange.ofQuery_persist listed query
    have order := ofRequest_post_view path post
    have called : (Call.setView (Order.viewChange r)).run out g.session world =
        (g.session, .still world (.ok (.view g.session.view))) := by
      rw [change]
      exact Stage.run_change_self out g.session world
    simp only [serve, order, perform, called, finish, post, asked]
    rfl

end Gateway

/-- The hours of a session's view are always on the menu.  Whenever a gateway shows the view, it
is the one that its session then has, together with a query that brings it back: whatever query
the request came with, and whether the view was only asked for or changed. -/
theorem Gateway.view_restored {view : View} {zone : Zone} {tariff : Tariff} {s : Session}
    (opened : view = {} ∨ ∃ query, view = View.ofQuery query)
    (reachable : Session.Reachable (.fresh view zone tariff) s) :
    s.view.hours ∈ View.menu ∧
    ∀ g : Gateway, g.session = s →
      (∀ query, g.Restores (s.view.persist query)) ∧
      ∀ {σ : Type} (out : Outside σ) (world : σ) (r : Http.Request),
        r.path = Resource.view.path →
        (r.method = .get → g.serve out world r = ⟨g, world, [],
          .ok (.json 200 (.object [("view", s.view.toJson),
            ("query", .string (s.view.persist (r.query.getD "")))]) r.headers.acceptsBrotli)⟩) ∧
        (r.method = .post → ∀ response, (g.serve out world r).response = .ok response →
          response.status = 200 →
          let after := (g.serve out world r).gateway
          let query := after.session.view.persist (r.query.getD "")
          response.content = .document
            (.object [("view", after.session.view.toJson), ("query", .string query)]) ∧
          after.session.view.hours ∈ View.menu ∧ after.Restores query) := by
  have started : view.hours ∈ View.menu := by
    rcases opened with rfl | ⟨query, rfl⟩
    · decide
    · exact View.ofQuery_hours query
  have listed := reachable.hours_mem started
  refine ⟨listed, ?_⟩
  rintro g rfl
  refine ⟨restores_persist listed, fun out world r path => ⟨serve_get_view out world path, ?_⟩⟩
  intro post response served success
  obtain ⟨kept, shown⟩ := serve_post_view out world path post served success
  have listed' : (g.serve out world r).gateway.session.view.hours ∈ View.menu := by
    rw [kept]
    exact Stage.changeView_hours_mem listed _
  exact ⟨shown, listed', restores_persist listed' _⟩

/-- Three days of the panels, where the page asked for a day and then for five hours, which are not
on the menu. -/
def Session.lookedBack : Session :=
  [.setHours 5, .setHours 72].foldl advance (fresh (View.ofQuery "?tab=solar&hours=24") .utc {})

/-- The gateway of that session. -/
def Gateway.lookedBack : Gateway := ⟨.lookedBack, .utc, "home"⟩

/-- A gateway as it is set up. -/
def Gateway.opened : Gateway := ⟨.fresh {} .utc {}, .utc, "home"⟩

/-- An outside that is never reached. -/
def Outside.silent : Outside Unit where
  now _ := Session.noon
  fetch _ _ := (.error (.ofCause (.outbound "down")), ())
  fetchPaper _ _ _ := (.error (.ofCause (.outbound "down")), ())
  sendAlarm _ _ := (.error (.ofCause .webhook), ())

/-- A request to show the other tab. -/
def Http.Request.showOverview : Http.Request :=
  ⟨.post, "/session/view", some "hours=5&tab=overview&room=%ff", [], ""⟩

theorem Gateway.serve_showOverview :
    Gateway.lookedBack.serve .silent () .showOverview =
      ⟨⟨Session.lookedBack.setTab .overview, .utc, "home"⟩, (), [],
        .ok (.json 200 (viewJson ⟨.overview, 72⟩ (some "hours=5&tab=overview&room=%ff"))
          false)⟩ := by
  have change : Order.viewChange .showOverview = { tab := some .overview } := by decide +kernel
  have order := ofRequest_post_view (r := .showOverview) rfl rfl
  have view : (Session.lookedBack.setTab .overview).view = ⟨.overview, 72⟩ := by decide +kernel
  have called : (Call.setView (Order.viewChange .showOverview)).run .silent Session.lookedBack () =
      (Session.lookedBack.setTab .overview, .still () (.ok (.view ⟨.overview, 72⟩))) := by
    rw [change, Call.run, Stage.ofCall, Stage.run]
    show Stage.run _ (Session.lookedBack.setTab .overview) () (.done (.ok (.view _))) = _
    rw [Stage.run, view]
  simp only [serve, order, perform, lookedBack, called, finish]
  rfl

theorem Gateway.view_restored_lookedBack :
    Session.lookedBack.view = ⟨.solar, 72⟩ ∧ 72 ∈ View.menu ∧
    Gateway.lookedBack.Restores "a=b&tab=solar&hours=72" ∧
    ∃ after response, Gateway.lookedBack.serve .silent () .showOverview =
        ⟨after, (), [], .ok response⟩ ∧
      response.status = 200 ∧ after.session.view = ⟨.overview, 72⟩ ∧
      after.Restores "room=%25ff&tab=overview&hours=72" := by
  have reachable : Session.Reachable (.fresh (View.ofQuery "?tab=solar&hours=24") .utc {})
      Session.lookedBack := Session.Reachable.start.advances _
  obtain ⟨listed, shows⟩ := view_restored (.inr ⟨_, rfl⟩) reachable
  obtain ⟨restores, served⟩ := shows lookedBack rfl
  have view : Session.lookedBack.view = ⟨.solar, 72⟩ := by decide +kernel
  have query : Session.lookedBack.view.persist "hours=5&a=b" = "a=b&tab=solar&hours=72" := by
    decide +kernel
  have posted := (served .silent () .showOverview rfl).2 rfl _
    (by rw [serve_showOverview]) rfl
  rw [serve_showOverview] at posted
  have query' : (View.mk .overview 72).persist "hours=5&tab=overview&room=%ff" =
      "room=%25ff&tab=overview&hours=72" := by decide +kernel
  rw [view] at listed
  rw [← query]
  refine ⟨view, listed, restores _, _, _, serve_showOverview, rfl, by decide +kernel, ?_⟩
  have shown : (Session.lookedBack.setTab .overview).view = ⟨.overview, 72⟩ := by decide +kernel
  have restored : Gateway.Restores ⟨Session.lookedBack.setTab .overview, .utc, "home"⟩
      ((Session.lookedBack.setTab .overview).view.persist "hours=5&tab=overview&room=%ff") :=
    posted.2.2
  rw [shown, query'] at restored
  exact restored

end HouseholdDashboard
