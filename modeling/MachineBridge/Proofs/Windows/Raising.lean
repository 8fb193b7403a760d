import MachineBridge.Proofs.Lifecycle.Guards
import MachineBridge.Proofs.Windows.Answering
import MachineBridge.Proofs.Windows.Failure

/-!
# MachineBridge.Proofs.Windows.Raising

The two queries of a machine about its window: whether there is one on screen, and the request
to raise it.  The first one only looks at the flag and takes every failure for a no; the second
one checks that the machine is live and its platform has windows, and reports every failure.

They agree nevertheless (`queries_agree`).  A flag that says open is found in live machines
with windows only, so the checks refuse nothing that the flag lets pass; both ask the same
question; and the toolkit can answer it only from a running loop, which then accepts the task
that raises the window.
-/

namespace MachineBridge

namespace Bridge

variable {b c : Bridge} {env : Environment} {a i m : Nat} {id : Handle} {place : Option Nat}
  {v : Visibility} {meanwhile : List (Environment × Action)}

/-! ## calls that wait -/

/-- The bridge as soon as an inquiry is answered, while the steps of a run are taken. If none
of them answers it, this is the bridge after all of them. -/
def whenAnswered (b : Bridge) (i : Nat) : List (Environment × Action) → Bridge
  | [] => b
  | s :: rest =>
    if (b.visibility? i).isSome then b else (b.step s.1 s.2).whenAnswered i rest

/-- Find out whether a machine has a window on screen, with what happens while the caller waits
for the answer. Nothing is returned as long as there is none. -/
def hasWindowAfter (env : Environment) (b : Bridge) (m : Nat) (place : Option Nat)
    (meanwhile : List (Environment × Action)) : Bridge × Option Bool :=
  match b.beginHasWindow env m place with
  | (asked, none) => (asked, some false)
  | (asked, some i) =>
    let waited := asked.whenAnswered i meanwhile
    (waited, (waited.visibility? i).map Visibility.hasWindow)

/-- Bring the window of a machine to the front, with what happens while the caller waits for
the answer whether it is visible. Nothing is returned as long as there is none. -/
def frontAfter (env : Environment) (b : Bridge) (m : Nat) (place : Option Nat)
    (meanwhile : List (Environment × Action)) : Bridge × Option (Except BridgeError Unit) :=
  match b.beginFront env m place with
  | (asked, .error e) => (asked, some (.error e))
  | (asked, .ok i) =>
    let waited := asked.whenAnswered i meanwhile
    match waited.visibility? i with
    | none => (waited, none)
    | some v => ((waited.finishFront i v).1, some (waited.finishFront i v).2)

/-- An inquiry that has its answer is not waited for. -/
theorem whenAnswered_of_answered (answered : (b.visibility? i).isSome)
    (meanwhile : List (Environment × Action)) : b.whenAnswered i meanwhile = b := by
  cases meanwhile with
  | nil => rfl
  | cons s rest => rw [whenAnswered, if_pos answered]

theorem whenAnswered_append (b : Bridge) (i : Nat) (first second : List (Environment × Action)) :
    b.whenAnswered i (first ++ second) = (b.whenAnswered i first).whenAnswered i second := by
  induction first generalizing b with
  | nil => rfl
  | cons s rest ih =>
    rw [List.cons_append, whenAnswered, whenAnswered]
    split
    · next answered => exact (whenAnswered_of_answered answered second).symm
    · exact ih (b.step s.1 s.2)

/-- A caller that waits during a run has the answer exactly if the run gives one. -/
theorem answered_whenAnswered_iff (b : Bridge) (i : Nat) (meanwhile : List (Environment × Action)) :
    ((b.whenAnswered i meanwhile).visibility? i).isSome ↔
      ((b.run meanwhile).visibility? i).isSome := by
  induction meanwhile generalizing b with
  | nil => exact Iff.rfl
  | cons s rest ih =>
    rw [whenAnswered]
    split
    · next answered => exact ⟨fun _ => answered_run _ answered, fun _ => answered⟩
    · exact ih (b.step s.1 s.2)

/-! ### the steps of a call -/

/-- A caller waits for the first steps of what happens meanwhile. -/
theorem whenAnswered_eq_run (b : Bridge) (i : Nat) (meanwhile : List (Environment × Action)) :
    ∃ taken, taken <+: meanwhile ∧ b.whenAnswered i meanwhile = b.run taken := by
  induction meanwhile generalizing b with
  | nil => exact ⟨[], List.prefix_refl [], rfl⟩
  | cons s rest ih =>
    rw [whenAnswered]
    split
    · exact ⟨[], List.nil_prefix, rfl⟩
    · obtain ⟨taken, first, waited⟩ := ih (b.step s.1 s.2)
      exact ⟨s :: taken, List.cons_prefix_cons.2 ⟨rfl, first⟩, waited⟩

/-- The call that finds out whether there is a window, as steps of the bridge. -/
theorem hasWindowAfter_eq_run (env : Environment) (b : Bridge) (m : Nat) (place : Option Nat)
    (meanwhile : List (Environment × Action)) :
    ∃ taken, taken <+: meanwhile ∧ (b.hasWindowAfter env m place meanwhile).1 =
      b.run ((env, .beginHasWindow m place) :: taken) := by
  rw [hasWindowAfter]
  split
  · next asked h => exact ⟨[], List.nil_prefix, (congrArg Prod.fst h).symm⟩
  · next asked i h =>
    have begun : b.step env (.beginHasWindow m place) = asked := congrArg Prod.fst h
    obtain ⟨taken, first, waited⟩ := asked.whenAnswered_eq_run i meanwhile
    refine ⟨taken, first, ?_⟩
    show asked.whenAnswered i meanwhile = (b.step env (.beginHasWindow m place)).run taken
    rw [begun, waited]

/-- The call that raises a window, as steps of the bridge: it goes on when it has its answer. -/
theorem frontAfter_eq_run (env : Environment) (b : Bridge) (m : Nat) (place : Option Nat)
    (meanwhile : List (Environment × Action)) :
    ∃ taken goesOn, taken <+: meanwhile ∧ (goesOn = [] ∨ ∃ i, goesOn = [(env, .finishFront i)]) ∧
      (b.frontAfter env m place meanwhile).1 =
        b.run ((env, .beginFront m place) :: (taken ++ goesOn)) := by
  rw [frontAfter]
  split
  · next asked e h => exact ⟨[], [], List.nil_prefix, .inl rfl, (congrArg Prod.fst h).symm⟩
  · next asked i h =>
    have begun : b.step env (.beginFront m place) = asked := congrArg Prod.fst h
    obtain ⟨taken, first, waited⟩ := asked.whenAnswered_eq_run i meanwhile
    have during : b.run ((env, .beginFront m place) :: taken) =
        asked.whenAnswered i meanwhile := by
      show (b.step env (.beginFront m place)).run taken = _
      rw [begun, waited]
    dsimp only
    split
    · exact ⟨taken, [], first, .inl rfl, by rw [List.append_nil, during]⟩
    · next v answered =>
      refine ⟨taken, [(env, .finishFront i)], first, .inr ⟨i, rfl⟩, ?_⟩
      rw [← List.cons_append, run_append, during]
      show _ = (asked.whenAnswered i meanwhile).step env (.finishFront i)
      rw [step, answered]

/-! ## inquiries under way -/

/-- An inquiry that is answered or in line, and whose application is running if the toolkit has
answered. -/
structure Underway (b : Bridge) (a : Nat) (id : Handle) (i : Nat) : Prop where
  addressed : b.Addressed
  inquiry : ∃ answer, b.inquiries[i]? = some { application := a, id, answer }
  line : (b.visibility? i).isSome ∨ ∃ x, b.InLine i a x
  accepting : ∀ isVisible, b.visibility? i = some (.known isVisible) → b.Accepting a

/-- An inquiry under way stays so, or it is answered. -/
theorem Underway.step (h : b.Underway a id i) (unanswered : b.visibility? i = none)
    (env : Environment) (act : Action) : (b.step env act).Underway a id i := by
  obtain ⟨answer, found⟩ := h.inquiry
  obtain ⟨answer', found', -⟩ := (inquiryStep_step env act found).inquiry
  refine ⟨h.addressed.step env act, ⟨answer', found'⟩, ?_, fun isVisible known => ?_⟩
  · obtain answered | ⟨x, waits⟩ := h.line
    · rw [unanswered] at answered
      cases answered
    · exact waits.step env act found
  · exact accepting_of_known h.addressed env act found unanswered known

theorem Underway.whenAnswered (h : b.Underway a id i)
    (meanwhile : List (Environment × Action)) : (b.whenAnswered i meanwhile).Underway a id i := by
  induction meanwhile generalizing b with
  | nil => exact h
  | cons s rest ih =>
    rw [Bridge.whenAnswered]
    split
    · exact h
    · next unanswered => exact ih (h.step (by simpa using unanswered) s.1 s.2)

/-- An inquiry under way is answered after enough turns of the main loop. -/
theorem Underway.returns (h : b.Underway a id i) (env : Environment) :
    ∃ n, ((b.whenAnswered i (mainTurns env a n)).visibility? i).isSome := by
  obtain answered | ⟨x, waits⟩ := h.line
  · exact ⟨0, answered⟩
  · obtain ⟨answer, found⟩ := h.inquiry
    obtain ⟨n, answered⟩ := answered_mainTurns env waits found
    exact ⟨n, (answered_whenAnswered_iff b i _).2 answered⟩

/-- A question from elsewhere is under way. -/
theorem underway_inquire (reachable : b.Reachable) (env : Environment)
    (elsewhere : place ≠ some a) (id : Handle) :
    (b.inquire env a id place).1.Underway a id b.inquiries.length := by
  have noted := notes_inquire env b a id place
  have inquiry : ∃ answer, (b.inquire env a id place).1.inquiries[b.inquiries.length]? =
      some { application := a, id, answer } := by
    obtain ⟨answer, inquiries⟩ := noted.inquiries
    rw [inquiries]
    exact ⟨answer, List.getElem?_concat_length ..⟩
  have addressed := reachable.addressed.notes noted
  obtain ⟨posted, accepting⟩ | ⟨e, refused⟩ := b.inquire_of_elsewhere env elsewhere id
  · refine ⟨addressed, inquiry, .inr ?_, fun _ known => ?_⟩
    · rw [posted]
      exact inLine_asked reachable accepting id
    · rw [posted, visibility?_asked] at known
      cases known
  · have answered : (b.inquire env a id place).1.visibility? b.inquiries.length =
        some (.unknown e) := by
      rw [visibility?, refused, inquiries_answer_inquired, List.getElem?_concat_length]
      rfl
    refine ⟨addressed, inquiry, .inl (by rw [answered]; rfl), fun _ known => ?_⟩
    rw [answered] at known
    cases known

/-! ## going on -/

/-- A task is handed over exactly if the application accepts tasks. -/
theorem dispatch_ok_iff (b : Bridge) (a : Nat) (t : MainTask) :
    (b.dispatch a t).2 = .ok () ↔ b.Accepting a := by
  obtain ⟨x, there, accepts, posted⟩ | ⟨refusing, e, refused⟩ := b.dispatch_cases a t
  · rw [posted]
    exact ⟨fun _ => ⟨x, there, accepts⟩, fun _ => rfl⟩
  · rw [refused]
    constructor
    · intro done
      cases done
    · rintro ⟨x, there, accepts⟩
      rw [refusing x there] at accepts
      cases accepts

/-- A window that is visible is raised by a task. -/
theorem finishFront_of_visible {q : Inquiry} (found : b.inquiries[i]? = some q) :
    b.finishFront i (.known true) = b.dispatch q.application (.bringToFront q.id) := by
  simp only [finishFront, found]

/-- Only the toolkit can say that there is a window. -/
theorem eq_known_of_hasWindow (yes : v.hasWindow = true) : v = .known true := by
  cases v with
  | known isVisible => exact congrArg _ yes
  | unknown e => cases yes

/-- A window is raised if the answer is that it is visible and the application still accepts
tasks. -/
theorem finishFront_ok_iff {q : Inquiry} (found : b.inquiries[i]? = some q) (v : Visibility) :
    (b.finishFront i v).2 = .ok () ↔ v.hasWindow = true ∧ b.Accepting q.application := by
  cases v with
  | unknown e => exact ⟨nofun, fun h => absurd h.1 Bool.false_ne_true⟩
  | known isVisible =>
    cases isVisible with
    | false => exact ⟨nofun, fun h => absurd h.1 Bool.false_ne_true⟩
    | true =>
      rw [finishFront_of_visible found, dispatch_ok_iff]
      exact ⟨fun accepting => ⟨rfl, accepting⟩, And.right⟩

/-- One task raises the window that was asked about. -/
theorem finishFront_of_ok {q : Inquiry} (found : b.inquiries[i]? = some q)
    (done : (b.finishFront i v).2 = .ok ()) :
    (b.finishFront i v).1 =
      b.modifyApplication q.application (·.post (.bringToFront q.id)) := by
  obtain rfl := eq_known_of_hasWindow ((finishFront_ok_iff found v).1 done).1
  rw [finishFront_of_visible found] at done ⊢
  obtain ⟨e, refused⟩ | posted := b.dispatch_post q.application (.bringToFront q.id)
  · rw [refused] at done
    cases done
  · rw [posted]

/-- An inquiry stays the same but for its answer. -/
theorem inquiry_run {q : Inquiry} (found : b.inquiries[i]? = some q)
    (actions : List (Environment × Action)) :
    ∃ answer, (b.run actions).inquiries[i]? = some { q with answer } := by
  induction actions generalizing b q with
  | nil => exact ⟨q.answer, found⟩
  | cons s rest ih =>
    obtain ⟨answer, found', -⟩ := (inquiryStep_step s.1 s.2 found).inquiry
    exact ih (b := b.step s.1 s.2) (q := { q with answer }) found'

/-! ## the checks -/

/-- A machine that reports a window is live, and its platform has windows. -/
theorem admitted_of_reported (reachable : b.Reachable) (reported : b.reported? m = some (a, id)) :
    ∃ machine, b.admitted m PlatformVersion.forStopAndGraphics = .ok machine ∧
      machine.window.openIn? = some (a, id) := by
  obtain ⟨machine, found, opened⟩ := Option.bind_eq_some_iff.1 reported
  have token := token_of_openIn opened
  obtain ⟨actions, rfl⟩ := reachable
  have live := live_of_token found token
  exact ⟨machine, admitted_eq_ok_iff.2 ⟨found, live, (guarded_run found).window id token⟩, opened⟩

theorem inquire_snd (b : Bridge) (env : Environment) (a : Nat) (id : Handle)
    (place : Option Nat) : (b.inquire env a id place).2 = b.inquiries.length := by
  unfold inquire
  dsimp only
  split
  · rfl
  · split <;> rfl

/-- A window that is reported is asked for. -/
theorem beginHasWindow_of_reported (env : Environment) (place : Option Nat)
    (reported : b.reported? m = some (a, id)) :
    b.beginHasWindow env m place =
      ((b.inquire env a id place).1, some b.inquiries.length) := by
  rw [beginHasWindow, show (b.machines[m]?).bind _ = some (a, id) from reported]
  dsimp only
  rw [inquire_snd]

/-- The request to raise a window that a machine reports passes its checks. -/
theorem beginFront_of_reported (reachable : b.Reachable) (env : Environment)
    (place : Option Nat) (reported : b.reported? m = some (a, id)) :
    b.beginFront env m place =
      ((b.inquire env a id place).1, .ok b.inquiries.length) := by
  obtain ⟨machine, admitted, opened⟩ := admitted_of_reported reachable reported
  rw [beginFront, admitted]
  dsimp only
  rw [opened]
  dsimp only
  rw [inquire_snd]

theorem beginHasWindow_of_unreported (env : Environment) (place : Option Nat)
    (unreported : b.reported? m = none) : b.beginHasWindow env m place = (b, none) := by
  rw [beginHasWindow, show (b.machines[m]?).bind _ = none from unreported]

/-- Without an open window the request to raise one fails, with or without other reasons. -/
theorem beginFront_of_unreported (env : Environment) (place : Option Nat)
    (unreported : b.reported? m = none) : ∃ e, b.beginFront env m place = (b, .error e) := by
  rw [beginFront]
  cases admitted : b.admitted m PlatformVersion.forStopAndGraphics with
  | error e => exact ⟨e, rfl⟩
  | ok machine =>
    have closed : machine.window.openIn? = none := by
      rw [reported?, (admitted_eq_ok_iff.1 admitted).1] at unreported
      exact unreported
    dsimp only
    rw [closed]
    exact ⟨_, rfl⟩

/-! ## agreement -/

/-- The two queries of a machine about its window agree. They are made in the same state, from
elsewhere than the main thread that is asked, and the same happens while their callers wait. -/
structure QueriesAgree (env : Environment) (b : Bridge) (m : Nat) (place : Option Nat) : Prop where
  /-- Both begin in the same way. At most they ask, and nothing else changes. -/
  begins : (b.beginFront env m place).1 = (b.beginHasWindow env m place).1
  asks : (b.beginHasWindow env m place).1 = b ∨ ∃ a id, b.reported? m = some (a, id) ∧
    b.Asks a id b.inquiries.length (b.beginHasWindow env m place).1
  /-- Without an open window neither of them asks. -/
  unasked : b.reported? m = none → ∀ meanwhile,
    b.hasWindowAfter env m place meanwhile = (b, some false) ∧
      ∃ e, b.frontAfter env m place meanwhile = (b, some (.error e))
  /-- They return at the same time, and in the end they do, if the main loop has its turns. -/
  together : ∀ meanwhile, (b.frontAfter env m place meanwhile).2.isSome =
    (b.hasWindowAfter env m place meanwhile).2.isSome
  returns : ∀ a id, b.reported? m = some (a, id) → ∀ meanwhile env', ∃ n,
    (b.hasWindowAfter env m place (meanwhile ++ mainTurns env' a n)).2.isSome
  /-- The window is raised exactly if it is there. -/
  agree : ∀ meanwhile, (b.frontAfter env m place meanwhile).2 = some (.ok ()) ↔
    (b.hasWindowAfter env m place meanwhile).2 = some true
  /-- Then one task more is queued, which raises the window of the machine. -/
  raises : ∀ meanwhile, (b.frontAfter env m place meanwhile).2 = some (.ok ()) →
    ∃ a id x, b.reported? m = some (a, id) ∧ b.token? (.windowBinding m) = some id ∧
      (b.hasWindowAfter env m place meanwhile).1.applications[a]? = some x ∧
      (b.frontAfter env m place meanwhile).1 =
        (b.hasWindowAfter env m place meanwhile).1.modifyApplication a
          (·.post (.bringToFront id))
  /-- Otherwise none is, and nothing else changes. -/
  otherwise : ∀ meanwhile, (b.frontAfter env m place meanwhile).2 ≠ some (.ok ()) →
    (b.frontAfter env m place meanwhile).1 = (b.hasWindowAfter env m place meanwhile).1
  /-- A caller that has its answer and goes on late can still be refused, if the main loop has
  ended in the meantime. -/
  late : ∀ a id, b.reported? m = some (a, id) → ∀ meanwhile v,
    (b.hasWindowAfter env m place meanwhile).1.visibility? b.inquiries.length = some v →
    ∀ more, let c := (b.hasWindowAfter env m place meanwhile).1.run more
      (c.finishFront b.inquiries.length v).2 = .ok () ↔
        (b.hasWindowAfter env m place meanwhile).2 = some true ∧ c.Accepting a

/-- A machine that reports no window answers both queries at once. -/
theorem queriesAgree_of_unreported (unreported : b.reported? m = none) :
    b.QueriesAgree env m place := by
  have has := beginHasWindow_of_unreported env place unreported
  obtain ⟨e, front⟩ := beginFront_of_unreported env place unreported
  have hasAfter (meanwhile : List (Environment × Action)) :
      b.hasWindowAfter env m place meanwhile = (b, some false) := by rw [hasWindowAfter, has]
  have frontAfter (meanwhile : List (Environment × Action)) :
      b.frontAfter env m place meanwhile = (b, some (.error e)) := by rw [frontAfter, front]
  constructor
  case begins => rw [front, has]
  case asks => exact .inl (by rw [has])
  case unasked => exact fun _ meanwhile => ⟨hasAfter meanwhile, e, frontAfter meanwhile⟩
  case together => exact fun meanwhile => by rw [hasAfter, frontAfter]; rfl
  case returns =>
    intro a id reported
    rw [unreported] at reported
    cases reported
  case agree =>
    intro meanwhile
    rw [hasAfter, frontAfter]
    exact ⟨nofun, nofun⟩
  case raises =>
    intro meanwhile done
    rw [frontAfter] at done
    cases done
  case otherwise => exact fun meanwhile _ => by rw [hasAfter, frontAfter]
  case late =>
    intro a id reported
    rw [unreported] at reported
    cases reported

/-- What becomes of both queries once they have asked, in terms of one wait. -/
structure Asking (env : Environment) (b : Bridge) (m : Nat) (place : Option Nat) (a : Nat)
    (id : Handle) (meanwhile : List (Environment × Action)) (waited : Bridge) : Prop where
  underway : waited.Underway a id b.inquiries.length
  has : b.hasWindowAfter env m place meanwhile =
    (waited, (waited.visibility? b.inquiries.length).map Visibility.hasWindow)
  waits : waited.visibility? b.inquiries.length = none →
    b.frontAfter env m place meanwhile = (waited, none)
  front : ∀ v, waited.visibility? b.inquiries.length = some v →
    b.frontAfter env m place meanwhile = ((waited.finishFront b.inquiries.length v).1,
      some (waited.finishFront b.inquiries.length v).2)

theorem asking_of_reported (reachable : b.Reachable) (env : Environment)
    (reported : b.reported? m = some (a, id)) (elsewhere : place ≠ some a)
    (meanwhile : List (Environment × Action)) :
    Asking env b m place a id meanwhile
      ((b.inquire env a id place).1.whenAnswered b.inquiries.length meanwhile) where
  underway := (underway_inquire reachable env elsewhere id).whenAnswered meanwhile
  has := by rw [hasWindowAfter, beginHasWindow_of_reported env place reported]
  waits unanswered := by
    rw [frontAfter, beginFront_of_reported reachable env place reported]
    dsimp only
    rw [unanswered]
  front v answered := by
    rw [frontAfter, beginFront_of_reported reachable env place reported]
    dsimp only
    rw [answered]

section Asking

variable {waited : Bridge} (h : Asking env b m place a id meanwhile waited)
include h

/-- Both calls return, or both wait. -/
theorem Asking.together : (b.frontAfter env m place meanwhile).2.isSome =
    (b.hasWindowAfter env m place meanwhile).2.isSome := by
  cases answer : waited.visibility? b.inquiries.length with
  | none => rw [h.waits answer, h.has, answer]; rfl
  | some v => rw [h.front v answer, h.has, answer]; rfl

/-- The application that has answered accepts the task that raises the window. -/
theorem Asking.agree : (b.frontAfter env m place meanwhile).2 = some (.ok ()) ↔
    (b.hasWindowAfter env m place meanwhile).2 = some true := by
  obtain ⟨answer, found⟩ := h.underway.inquiry
  cases answered : waited.visibility? b.inquiries.length with
  | none =>
    rw [h.waits answered, h.has, answered]
    exact ⟨nofun, nofun⟩
  | some v =>
    have yes : v.hasWindow = true → waited.Accepting a := fun yes =>
      h.underway.accepting true (eq_known_of_hasWindow yes ▸ answered)
    rw [h.front v answered, h.has, answered, Option.map_some, Option.some.injEq,
      Option.some.injEq, finishFront_ok_iff found]
    exact ⟨And.left, fun visible => ⟨visible, yes visible⟩⟩

/-- If it succeeds, the call brings one window to the front and does nothing else. -/
theorem Asking.raises (done : (b.frontAfter env m place meanwhile).2 = some (.ok ())) :
    ∃ x, (b.hasWindowAfter env m place meanwhile).1.applications[a]? = some x ∧
      (b.frontAfter env m place meanwhile).1 =
        (b.hasWindowAfter env m place meanwhile).1.modifyApplication a
          (·.post (.bringToFront id)) := by
  obtain ⟨answer, found⟩ := h.underway.inquiry
  cases answered : waited.visibility? b.inquiries.length with
  | none =>
    rw [h.waits answered] at done
    cases done
  | some v =>
    rw [h.front v answered] at done ⊢
    rw [h.has]
    have done := Option.some.inj done
    obtain ⟨x, there, -⟩ := ((finishFront_ok_iff found v).1 done).2
    exact ⟨x, there, finishFront_of_ok found done⟩

/-- If it fails, the call has done nothing but ask. -/
theorem Asking.otherwise (failed : (b.frontAfter env m place meanwhile).2 ≠ some (.ok ())) :
    (b.frontAfter env m place meanwhile).1 = (b.hasWindowAfter env m place meanwhile).1 := by
  cases answered : waited.visibility? b.inquiries.length with
  | none => rw [h.waits answered, h.has]
  | some v =>
    rw [h.front v answered] at failed ⊢
    rw [h.has]
    cases result : (waited.finishFront b.inquiries.length v).2 with
    | ok u => exact absurd (congrArg some result) failed
    | error e => exact finishFront_of_error result

theorem Asking.late
    (answered : (b.hasWindowAfter env m place meanwhile).1.visibility? b.inquiries.length = some v)
    (more : List (Environment × Action)) :
    (((b.hasWindowAfter env m place meanwhile).1.run more).finishFront b.inquiries.length v).2 =
        .ok () ↔
      (b.hasWindowAfter env m place meanwhile).2 = some true ∧
        ((b.hasWindowAfter env m place meanwhile).1.run more).Accepting a := by
  obtain ⟨answer, found⟩ := h.underway.inquiry
  obtain ⟨answer', found'⟩ := inquiry_run found more
  rw [h.has] at answered ⊢
  rw [finishFront_ok_iff found', answered, Option.map_some, Option.some.injEq]

end Asking

theorem token?_of_reported (reported : b.reported? m = some (a, id)) :
    b.token? (.windowBinding m) = some id := by
  rw [reported?_eq] at reported
  obtain ⟨s, found, opened⟩ := Option.bind_eq_some_iff.1 reported
  rw [token?, found]
  exact token_of_openIn opened

/-- Asking from elsewhere does nothing but ask. -/
theorem asks_of_elsewhere (env : Environment) (b : Bridge) (id : Handle)
    (elsewhere : place ≠ some a) :
    b.Asks a id b.inquiries.length (b.inquire env a id place).1 := by
  obtain ⟨asked, asks, same⟩ := b.asks_inquire env a id place
  rw [if_neg fun here => elsewhere here.1] at same
  rw [same, ← b.inquire_snd env a id place]
  exact asks

/-- In whatever state machine, application and toolkit are, the two queries agree. -/
theorem queries_agree (actions : List (Environment × Action)) (env : Environment) (m : Nat)
    (place : Option Nat)
    (elsewhere : ∀ a id, (({} : Bridge).run actions).reported? m = some (a, id) →
      place ≠ some a) :
    (({} : Bridge).run actions).QueriesAgree env m place := by
  have reachable : (({} : Bridge).run actions).Reachable := ⟨actions, rfl⟩
  generalize ({} : Bridge).run actions = b at elsewhere reachable ⊢
  cases reported : b.reported? m with
  | none => exact queriesAgree_of_unreported reported
  | some window =>
    obtain ⟨a, id⟩ := window
    have away := elsewhere a id reported
    have asking := asking_of_reported reachable env reported away
    have has := beginHasWindow_of_reported env place reported
    constructor
    case begins => rw [beginFront_of_reported reachable env place reported, has]
    case asks =>
      rw [has]
      exact .inr ⟨a, id, reported, b.asks_of_elsewhere env id away⟩
    case unasked =>
      intro unreported
      rw [reported] at unreported
      cases unreported
    case together => exact fun meanwhile => (asking meanwhile).together
    case returns =>
      intro a' id' reported' meanwhile env'
      cases reported.symm.trans reported'
      obtain ⟨n, answered⟩ := (asking meanwhile).underway.returns env'
      refine ⟨n, ?_⟩
      rw [(asking _).has, whenAnswered_append, Option.isSome_map]
      exact answered
    case agree => exact fun meanwhile => (asking meanwhile).agree
    case raises =>
      intro meanwhile done
      obtain ⟨x, there, raised⟩ := (asking meanwhile).raises done
      exact ⟨a, id, x, reported, token?_of_reported reported, there, raised⟩
    case otherwise => exact fun meanwhile => (asking meanwhile).otherwise
    case late =>
      intro a' id' reported' meanwhile v answered more
      cases reported.symm.trans reported'
      exact (asking meanwhile).late answered more

/-- A window that is on screen is found and raised. -/
theorem queries_agree_shown :
    (∀ a id, (({} : Bridge).run halfGone).reported? 0 = some (a, id) →
        (none : Option Nat) ≠ some a) ∧
      ((({} : Bridge).run halfGone).hasWindowAfter .idle 0 none
        [(.showing ⟨3⟩, .mainTurn 0)]).2 = some true ∧
      ((({} : Bridge).run halfGone).frontAfter .idle 0 none
        [(.showing ⟨3⟩, .mainTurn 0)]).2 = some (.ok ()) := by
  have elsewhere : ∀ a id, (({} : Bridge).run halfGone).reported? 0 = some (a, id) →
      (none : Option Nat) ≠ some a := nofun
  have shown : ((({} : Bridge).run halfGone).hasWindowAfter .idle 0 none
      [(.showing ⟨3⟩, .mainTurn 0)]).2 = some true := by decide
  exact ⟨elsewhere, shown, ((queries_agree halfGone .idle 0 none elsewhere).agree _).2 shown⟩

/-- Behind a request to quit the window is neither found nor raised. -/
example :
    let b := ({} : Bridge).run (halfGone ++ [(.idle, .quit 0)])
    (b.hasWindowAfter .idle 0 none [(.showing ⟨3⟩, .mainTurn 0)]).2 = some false ∧
      (b.frontAfter .idle 0 none [(.showing ⟨3⟩, .mainTurn 0)]).2 =
        some (.error .taskDropped) := by decide

end Bridge

end MachineBridge
