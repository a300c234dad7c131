import HouseholdDashboard.Proofs.Gateway.View

/-!
# How far the paper display looks back

The paper display may ask for any hours of 32 bits, which are not held against the menu.  The
calendar does not go back as far as that (`Instant.Reaches`): beyond it a request for the paper
display has no response at all (`Gateway.serve_paper_beyond`), and within it it always has one.
-/

namespace HouseholdDashboard

namespace Instant

/-- Whether the calendar reaches some hours back from an instant; a leap second counts as past. -/
def Reaches (t : Instant) (hours : Nat) : Prop :=
  -8334601228800 ≤ t.seconds + (t.nanos / 1000000000 : Nat) - 3600 * hours

instance (t : Instant) (hours : Nat) : Decidable (t.Reaches hours) :=
  inferInstanceAs (Decidable (_ ≤ _))

theorem subHours?_isSome_iff (t : Instant) (hours : Nat) :
    (t.subHours? hours).isSome = true ↔ t.Reaches hours := by
  have := t.first_le
  have := t.le_last
  have := t.nanos_lt
  unfold subHours? ofParts? Reaches
  split <;> split <;> simp <;> omega

theorem reaches_iff_exists (t : Instant) (hours : Nat) :
    t.Reaches hours ↔ ∃ since, t.subHours? hours = some since := by
  rw [← subHours?_isSome_iff, Option.isSome_iff_exists]

/-- From 1970 to 9999 the calendar reaches over two billion hours back, but not over all of 32
bits. -/
theorem reaches_of_le {t : Instant} (since1970 : 0 ≤ t.seconds) {hours : Nat}
    (few : hours ≤ 2315167008) : t.Reaches hours := by
  unfold Reaches
  omega

theorem not_reaches_of_lt {t : Instant} (until9999 : t.seconds ≤ 253402300799) {hours : Nat}
    (many : 2385556536 < hours) : ¬t.Reaches hours := by
  have := t.nanos_lt
  unfold Reaches
  omega

end Instant

/-! ## What a query asks for -/

namespace Order

/-- Whether the hours that were taken in so far have 32 bits. -/
def PaperFields.Fits (f : PaperFields) : Prop := ∀ h, f.hours = some h → h < Nat.pow 2 32

theorem PaperFields.Fits.take {f f' : PaperFields} {p : Query.Parameter} (fits : f.Fits)
    (taken : f.take? p = some f') : f'.Fits := by
  unfold take? at taken
  split at taken
  · split at taken
    · cases taken
    · cases taken
      exact fits
  · split at taken
    · rename_i hours within
      split at taken
      · cases taken
      · cases taken
        intro h same
        cases same
        simpa using (Option.filter_eq_some_iff.mp within).2
    · cases taken
  · cases taken
    exact fits

theorem PaperFields.Fits.takes {ps : List Query.Parameter} {f f' : PaperFields} (fits : f.Fits)
    (taken : ps.foldlM take? f = some f') : f'.Fits := by
  induction ps generalizing f with
  | nil =>
    cases taken
    exact fits
  | cons p ps ih =>
    rw [List.foldlM_cons] at taken
    obtain ⟨next, first, rest⟩ := Option.bind_eq_some_iff.mp taken
    exact ih (fits.take first) rest

/-- The hours that a query asks for have 32 bits. -/
theorem hours_lt_of_paper? {query : String} {location : Option String} {hours : Option Nat}
    (asked : paper? query = some (paper location hours)) :
    ∀ h, hours = some h → h < Nat.pow 2 32 := by
  obtain ⟨f, filled, same⟩ := Option.map_eq_some_iff.mp asked
  cases same
  have none : PaperFields.Fits {} := fun h none => by cases none
  exact none.takes filled

end Order

/-! ## Requests -/

namespace Gateway

variable {g : Gateway} {r : Http.Request} {location : Option String} {hours : Option Nat}

theorem ofRequest_get_paper (path : r.path = Resource.paper.path) (get : r.method = .get)
    (asked : Order.paper? (r.query.getD "") = some (.paper location hours)) :
    Order.ofRequest r = .ok (.paper location hours) := by
  have found : Resource.ofPath? r.path = some .paper := by rw [path]; decide
  simp only [Order.ofRequest, found, get, Order.ofGet, asked]

/-- Within the calendar, the backend is asked once, and what it answers is responded. -/
theorem serve_paper_within (out : Outside σ) (world : σ)
    (order : Order.ofRequest r = .ok (.paper location hours)) {since : Instant}
    (within : (out.now world).subHours? (hours.getD 12) = some since) :
    let place := location.getD g.location
    let fetched := out.fetchPaper since place world
    g.serve out world r = ⟨g, fetched.2, [.ofResult (.paper since place) fetched.1],
      .ok { respond r.headers.acceptsBrotli
        ((fetched.1.mapError (·.within (PaperSummary.fetchingText place))).map
          fun s => (PaperSummary.ofSnapshot g.session.zone place s).toJson) with
        headersOnly := r.method = .head }⟩ := by
  have reached : (⟨.solar, hours.getD 12⟩ : View).since? (out.now world) = some since := within
  simp only [serve, order, perform, PaperSummary.fetch]
  rw [reached]
  dsimp only
  cases (out.fetchPaper since (location.getD g.location) world).1 <;> rfl

/-- Beyond the calendar there is no response, and the backend is not asked. -/
theorem serve_paper_beyond (out : Outside σ) (world : σ)
    (order : Order.ofRequest r = .ok (.paper location hours))
    (beyond : (out.now world).subHours? (hours.getD 12) = none) :
    g.serve out world r = ⟨g, world, [], .error .calendar⟩ := by
  have missed : (⟨.solar, hours.getD 12⟩ : View).since? (out.now world) = none := beyond
  simp only [serve, order, perform, PaperSummary.fetch]
  rw [missed]
  rfl

end Gateway

/-- A request for the paper display is responded to exactly if the calendar reaches back over the
hours that its query asks for.  Then the backend is asked once; otherwise nothing is done at all.
From 1970 to 9999 it does reach over 2315167008 hours, and does not over most of 32 bits. -/
theorem Gateway.paper_responds_iff {r : Http.Request} {location : Option String}
    {hours : Option Nat} (path : r.path = Resource.paper.path) (get : r.method = .get)
    (asked : Order.paper? (r.query.getD "") = some (.paper location hours)) :
    hours.getD 12 < Nat.pow 2 32 ∧
    ∀ {σ : Type} (g : Gateway) (out : Outside σ) (world : σ),
      let now := out.now world
      let served := g.serve out world r
      ((∃ response, served.response = .ok response) ↔ now.Reaches (hours.getD 12)) ∧
      (now.Reaches (hours.getD 12) → ∃ since, now.subHours? (hours.getD 12) = some since ∧
        served.gateway = g ∧
        served.attempts.map (·.call) = [.paper since (location.getD g.location)]) ∧
      (¬now.Reaches (hours.getD 12) → served = ⟨g, world, [], .error .calendar⟩) ∧
      (0 ≤ now.seconds → now.seconds ≤ 253402300799 →
        (hours.getD 12 ≤ 2315167008 → now.Reaches (hours.getD 12)) ∧
        (2385556536 < hours.getD 12 → ¬now.Reaches (hours.getD 12))) := by
  have fits : hours.getD 12 < Nat.pow 2 32 := by
    cases named : hours with
    | none => decide
    | some h => exact Order.hours_lt_of_paper? asked h named
  refine ⟨fits, fun g out world => ?_⟩
  intro now served
  have order := ofRequest_get_paper path get asked
  have years : 0 ≤ now.seconds → now.seconds ≤ 253402300799 →
      (hours.getD 12 ≤ 2315167008 → now.Reaches (hours.getD 12)) ∧
      (2385556536 < hours.getD 12 → ¬now.Reaches (hours.getD 12)) := fun first last =>
    ⟨Instant.reaches_of_le first, Instant.not_reaches_of_lt last⟩
  by_cases reaches : now.Reaches (hours.getD 12)
  · obtain ⟨since, found⟩ := (now.reaches_iff_exists _).mp reaches
    have within : served = _ := serve_paper_within (g := g) out world order found
    rw [within]
    exact ⟨iff_of_true ⟨_, rfl⟩ reaches, fun _ => ⟨since, found, rfl, rfl⟩,
      fun short => absurd reaches short, years⟩
  · have missed : now.subHours? (hours.getD 12) = none := by
      rwa [← Option.not_isSome_iff_eq_none, Instant.subHours?_isSome_iff]
    have beyond : served = _ := serve_paper_beyond (g := g) out world order missed
    rw [beyond]
    exact ⟨iff_of_false (fun ⟨_, responded⟩ => by cases responded) reaches,
      fun reached => absurd reached reaches, fun _ => rfl, years⟩

/-- A request for the paper display that goes back to the first second of the calendar from noon of
the first day of 1970. -/
def Http.Request.lookingFar : Http.Request :=
  ⟨.get, "/eink", some "hours=2315167020", [], ""⟩

theorem Gateway.paper_responds_far :
    ∃ response, (opened.serve .silent () .lookingFar).response = .ok response := by
  have asked : Order.paper? "hours=2315167020" = some (.paper none (some 2315167020)) := by
    decide +kernel
  have reaches : Session.noon.Reaches 2315167020 := by decide +kernel
  exact ((paper_responds_iff (r := .lookingFar) rfl rfl asked).2 opened .silent ()).1.mpr reaches

/-- A request for the paper display with as many hours as a query can name. -/
def Http.Request.lookingTooFar : Http.Request :=
  ⟨.get, "/eink", some "location=perth&hours=4294967295", [], ""⟩

/-- That request can be read, and has no response. -/
theorem Gateway.paper_crashes :
    Order.ofRequest .lookingTooFar = .ok (.paper (some "perth") (some 4294967295)) ∧
    0 ≤ Session.noon.seconds ∧ Session.noon.seconds ≤ 253402300799 ∧
    opened.serve .silent () .lookingTooFar = ⟨opened, (), [], .error .calendar⟩ := by
  have order : Order.ofRequest .lookingTooFar =
      .ok (.paper (some "perth") (some 4294967295)) := by decide +kernel
  have beyond : Session.noon.subHours? 4294967295 = none := by decide +kernel
  exact ⟨order, by decide, by decide, serve_paper_beyond .silent () order beyond⟩

end HouseholdDashboard
