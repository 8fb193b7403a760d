import MachineBridge.Proofs.Lifecycle.Refusals
import MachineBridge.Proofs.Windows.Watchers

/-!
# MachineBridge.Proofs.Windows.Asking

Which steps have to do with inquiries.  Most operations are *silent*: they neither make an
inquiry nor answer one.  What is left are the two queries that ask, which note an inquiry and at
most queue its task, and the turns of main loops (`askStep_step`).
-/

namespace MachineBridge

namespace Bridge

variable {b b' : Bridge} {a : Nat}

/-! ## what neither asks nor answers -/

/-- No inquiry is made and none is answered. -/
structure Silent (b b' : Bridge) : Prop where
  inquiries : b'.inquiries = b.inquiries
  queued : ∀ a i, .inquire i ∈ b'.tasks a → .inquire i ∈ b.tasks a

theorem Silent.of_eq (applications : b'.applications = b.applications)
    (inquiries : b'.inquiries = b.inquiries) : Silent b b' where
  inquiries := inquiries
  queued a i mem := by rwa [tasks, applications] at mem

theorem Silent.refl (b : Bridge) : Silent b b := .of_eq rfl rfl

theorem Silent.trans {b₁ b₂ b₃ : Bridge} (first : Silent b₁ b₂) (second : Silent b₂ b₃) :
    Silent b₁ b₃ where
  inquiries := second.inquiries.trans first.inquiries
  queued a i mem := first.queued a i (second.queued a i mem)

theorem silent_modifyApplication (b : Bridge) (a : Nat) {f : Application → Application}
    (kept : ∀ x i, .inquire i ∈ (f x).queue.tasks → .inquire i ∈ x.queue.tasks) :
    Silent b (b.modifyApplication a f) where
  inquiries := rfl
  queued k i mem := by
    rw [tasks, getElem?_modifyApplication] at mem
    rw [tasks]
    split at mem
    · cases found : b.applications[k]? with
      | none =>
        rw [found] at mem
        exact mem
      | some x =>
        rw [found] at mem
        exact kept x i mem
    · exact mem

/-- A new application has no tasks. -/
theorem silent_addApplication (b : Bridge) : Silent b b.addApplication.1 where
  inquiries := rfl
  queued k i mem := by
    rw [tasks, addApplication, List.getElem?_append] at mem
    rw [tasks]
    split at mem
    · exact mem
    · generalize k - b.applications.length = n at mem
      cases n <;> cases mem

/-- An edit elsewhere leaves the inquiries and their tasks. -/
theorem Edit.silent {p : Part} (edit : Edit p b b') (apart : p ∉ [.inquiries, .inquiring]) :
    Silent b b' := by
  have same {a : Nat} {f : Application → Application} (queue : ∀ x, (f x).queue = x.queue) :
      Silent b (b.modifyApplication a f) :=
    b.silent_modifyApplication a fun x i mem => by rwa [queue] at mem
  cases edit with
  | inquiries => simp at apart
  | applications => exact b.silent_addApplication
  | @posts _ a t =>
    refine b.silent_modifyApplication a fun x i mem => ?_
    rw [Application.tasks_post, List.mem_append, List.mem_singleton] at mem
    refine mem.resolve_right ?_
    rintro rfl
    simp [MainTask.part] at apart
  | queues _ fewer => exact b.silent_modifyApplication _ fun x i mem => fewer x _ mem
  | hosting only | controllers only | closings only => exact same fun x => by rw [only x]
  | toolkit _ => exact same fun x => queue_recordUpToPanic x _ _
  | _ => exact .of_eq rfl rfl

/-- Only inquiries that are noted or answered, and tasks that answer one, are not silent. -/
theorem Edits.silent {ps : List Part} (h : Edits ps b b')
    (apart : Part.apart ps [.inquiries, .inquiring] = true) : Silent b b' :=
  h.keeps .refl .trans Edit.silent apart

/-! ## asking -/

/-- An inquiry is noted behind all others, and at most its own task is queued, in the
application that is asked. -/
structure Notes (b : Bridge) (a : Nat) (id : Handle) (b' : Bridge) : Prop where
  inquiries : ∃ answer, b'.inquiries = b.inquiries ++ [{ application := a, id, answer }]
  queued : ∀ k i, .inquire i ∈ b'.tasks k →
    .inquire i ∈ b.tasks k ∨ i = b.inquiries.length ∧ k = a

/-- The last inquiry is answered. -/
theorem inquiries_answer_inquired (b : Bridge) (a : Nat) (id : Handle) (v : Visibility) :
    ((b.inquired a id).answerInquiry b.inquiries.length v).inquiries =
      b.inquiries ++ [{ application := a, id, answer := some v }] := by
  simp [answerInquiry, inquired, List.modify_eq_take_cons_drop]

/-- The toolkit is asked at once. -/
theorem notes_lookInPlace (env : Environment) (b : Bridge) (a : Nat) (id : Handle) :
    Notes b a id ((b.inquired a id).lookInPlace env a b.inquiries.length id) := by
  obtain ⟨v, looked⟩ := look_of_found env (b.getElem?_inquired a id)
  have noted : Notes b a id ((b.inquired a id).look env b.inquiries.length) := by
    rw [looked]
    refine ⟨⟨some v, b.inquiries_answer_inquired a id v⟩, fun k i mem => .inl ?_⟩
    have same : Silent b (b.modifyApplication a (·.record (.isVisible id))) :=
      b.silent_modifyApplication a fun _ _ mem => mem
    exact same.queued k i mem
  unfold lookInPlace
  split
  · have left := (edits_leaveJob ((b.inquired a id).look env b.inquiries.length) a .dropped).silent
      rfl
    exact ⟨left.inquiries ▸ noted.inquiries, fun k i mem => noted.queued k i (left.queued k i mem)⟩
  · exact noted

def asked (b : Bridge) (a : Nat) (id : Handle) : Bridge :=
  (b.inquired a id).modifyApplication a (·.post (.inquire b.inquiries.length))

theorem notes_asked (b : Bridge) (a : Nat) (id : Handle) : Notes b a id (b.asked a id) := by
  refine ⟨⟨none, rfl⟩, fun k i mem => ?_⟩
  rw [tasks, asked, getElem?_modifyApplication] at mem
  rw [tasks]
  split at mem
  · next own =>
    rw [inquired] at mem
    cases found : b.applications[k]? with
    | none =>
      rw [found] at mem
      cases mem
    | some x =>
      rw [found, Option.map_some, Option.elim_some, Application.tasks_post, List.mem_append,
        List.mem_singleton, MainTask.inquire.injEq] at mem
      exact mem.imp_right fun same => ⟨same, own.symm⟩
  · exact .inl mem

/-- From elsewhere the toolkit is asked by a task, if the application accepts it. -/
theorem inquire_of_elsewhere (env : Environment) {place : Option Nat} (elsewhere : place ≠ some a)
    (b : Bridge) (id : Handle) :
    (b.inquire env a id place).1 = b.asked a id ∧ b.Accepting a ∨
      ∃ e, (b.inquire env a id place).1 =
        (b.inquired a id).answerInquiry b.inquiries.length (.unknown e) := by
  unfold inquire
  dsimp only
  rw [if_neg elsewhere, ← inquired]
  obtain ⟨e, refused⟩ | posted :=
    (b.inquired a id).dispatch_post a (.inquire b.inquiries.length)
  · rw [refused]
    exact .inr ⟨e, rfl⟩
  · rw [posted]
    refine .inl ⟨rfl, ?_⟩
    obtain ⟨x, there, accepts, -⟩ | ⟨-, e, refused⟩ :=
      (b.inquired a id).dispatch_cases a (.inquire b.inquiries.length)
    · exact ⟨x, there, accepts⟩
    · rw [refused] at posted
      cases congrArg Prod.snd posted

/-- An inquiry is noted, and handed over or answered at once. -/
theorem notes_inquire (env : Environment) (b : Bridge) (a : Nat) (id : Handle)
    (place : Option Nat) : Notes b a id (b.inquire env a id place).1 := by
  by_cases here : place = some a
  · rw [inquire, if_pos here]
    exact b.notes_lookInPlace env a id
  · obtain ⟨posted, -⟩ | ⟨e, refused⟩ := b.inquire_of_elsewhere env here id
    · rw [posted]
      exact b.notes_asked a id
    · rw [refused]
      exact ⟨⟨_, b.inquiries_answer_inquired a id _⟩, fun _ _ mem => .inl mem⟩

/-! ## what a step does to inquiries -/

/-- What a step does to inquiries: nothing, it makes one, or a main loop takes its turn. -/
inductive AskStep (env : Environment) (b : Bridge) (act : Action) (b' : Bridge) : Prop
  | silent (h : Silent b b')
  | notes {a : Nat} {id : Handle} (h : Notes b a id b')
  | turns {a : Nat} (cause : act = .mainTurn a) (same : b' = b.mainTurn env a)

/-- Every step makes an inquiry, answers one or is silent. -/
theorem askStep_step (env : Environment) (b : Bridge) (act : Action) :
    AskStep env b act (b.step env act) := by
  by_cases apart : Part.apart act.parts [.inquiries, .inquiring] = true
  · exact .silent ((b.edits_step env act).silent apart)
  cases act with
  | beginFront m place =>
    rw [step, beginFront]
    split
    · exact .silent (.refl b)
    · split
      · exact .silent (.refl b)
      · exact .notes (b.notes_inquire env _ _ place)
  | beginHasWindow m place =>
    rw [step, beginHasWindow]
    split
    · exact .silent (.refl b)
    · exact .notes (b.notes_inquire env _ _ place)
  | receive e => exact absurd (by cases e <;> rfl) apart
  | mainTurn a => exact .turns rfl rfl
  | _ => exact absurd rfl apart

end Bridge

end MachineBridge
