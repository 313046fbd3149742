import ClusterDashboard.Proofs.Refresh.Following
/-!
# Background work comes to an end

A task that is woken wakes others only at a price: a loop wakes the next one in line when it ends
itself, and the watcher attaches a loop for a notice that it has read. So in whatever order the
tasks take their turns, there are only so many turns before none is ready, and `turnBound` is
enough of them.
-/
namespace ClusterDashboard
namespace Session

variable {S P J : Type} {b : Backend S P J} {s t : Session S P J}
variable {id : LoopId} {view : ViewId} {task : Task}

/-- At least as many turns as are left. A notice makes the attached loop take its last turn, and
adds a loop that takes one and may wake another when it ends. -/
def effort (s : Session S P J) : Nat :=
  s.ready.length + s.liveLoops + 3 * s.nav.notices.length + s.watching.toNat

theorem effort_le_turnBound (s : Session S P J) : s.effort ≤ s.turnBound := by
  have hw : s.watching.toNat ≤ 1 := Bool.toNat_le s.watching
  rw [effort, turnBound]
  omega

theorem wake_effort (task : Task) (s : Session S P J) : (s.wake task).effort ≤ s.effort + 1 := by
  unfold wake
  split
  · exact Nat.le_succ s.effort
  · simp only [effort, liveLoops, List.length_append, List.length_singleton]
    omega

theorem dequeue_effort (h : task ∈ s.ready) : (s.dequeue task).effort + 1 = s.effort := by
  have hr : (s.ready.erase task).length = s.ready.length - 1 := List.length_erase_of_mem h
  have hp : 0 < s.ready.length := List.length_pos_of_mem h
  simp only [effort, dequeue, liveLoops, hr]
  omega

theorem modifyLoop_liveLoops {l : Loop J} (hl : s.loops[id]? = some l)
    (change : Loop J → Loop J) :
    (s.modifyLoop id change).liveLoops + (!l.phase.isEnded).toNat =
      s.liveLoops + (!(change l).phase.isEnded).toNat := by
  obtain ⟨made, rfl⟩ := List.getElem?_eq_some_iff.mp hl
  have hs : s.loops.modify id change = s.loops.set id (change s.loops[id]) := by
    apply List.ext_getElem?
    intro other
    by_cases ho : id = other
    · subst ho
      simp [made]
    · simp [ho]
  have hp : (!s.loops[id].phase.isEnded) = true → 0 < s.loops.countP (!·.phase.isEnded) :=
    fun live => List.countP_pos_iff.mpr ⟨_, List.getElem_mem made, live⟩
  simp only [liveLoops, modifyLoop, hs, ← List.countP_eq_length_filter, List.countP_set made]
  cases hw : s.loops[id].phase.isEnded with
  | true => cases (change s.loops[id]).phase.isEnded <;> simp
  | false =>
    have hp := hp (by rw [hw]; rfl)
    cases (change s.loops[id]).phase.isEnded <;> simp <;> omega

theorem cancel_effort (id : LoopId) (s : Session S P J) : (s.cancel id).effort ≤ s.effort + 1 := by
  have hm : (s.modifyLoop id fun l => { l with cancelled := true }).effort = s.effort := by
    cases hl : s.loops[id]? with
    | none =>
      have hs : s.loops.modify id (fun l => { l with cancelled := true }) = s.loops :=
        List.modify_eq_self (List.getElem?_eq_none_iff.mp hl)
      rw [modifyLoop, hs]
    | some l =>
      have hc := modifyLoop_liveLoops hl fun l => { l with cancelled := true }
      have hc := Nat.add_right_cancel hc
      rw [effort, hc]
      rfl
  unfold cancel
  dsimp only
  split
  · exact hm ▸ wake_effort _ _
  · exact hm ▸ Nat.le_succ _

theorem shutdown_effort (s : Session S P J) : s.shutdown.effort ≤ s.effort + 1 := by
  unfold shutdown
  split
  · exact cancel_effort _ s
  · exact Nat.le_succ _

theorem joined_effort (view : ViewId) (s : Session S P J) :
    (s.joined view).effort = s.effort + 1 := by
  simp only [effort, joined, liveLoops, List.filter_append, List.length_append]
  have hn : ([({ view } : Loop J)].filter (!·.phase.isEnded)).length = 1 := rfl
  omega

theorem attach_effort (view : ViewId) (s : Session S P J) :
    (s.attach view).effort ≤ s.effort + 3 := by
  have shut := shutdown_effort s
  have woken := wake_effort (.loop s.shutdown.loops.length) (s.shutdown.joined view)
  rw [joined_effort] at woken
  rw [attach_eq]
  omega

theorem follows_effort (pages : List String) (s : Session S P J) :
    (pages.foldl (fun s page => s.follow page) s).effort ≤ s.effort + 3 * pages.length := by
  induction pages generalizing s with
  | nil => exact Nat.le_refl _
  | cons page pages ih =>
    have first : (s.follow page).effort ≤ s.effort + 3 := by
      unfold follow
      split
      · exact attach_effort _ s
      · exact Nat.le_add_right _ 3
    have rest := ih (s.follow page)
    rw [List.foldl_cons, List.length_cons]
    omega

theorem pollWatcher_effort (s : Session S P J) : s.pollWatcher.effort ≤ s.effort := by
  rw [pollWatcher_eq]
  split
  · exact Nat.le_refl _
  · next watching =>
    have watching : s.watching = true := by simpa using watching
    split
    -- the last turn of the watcher pays for the loop that is cancelled
    · have shut := shutdown_effort s
      have there : s.shutdown.watching = true :=
        (surroundings_eq (shutdown_surroundings s)).2.2.2.1.trans watching
      simp only [effort, there, liveLoops, Bool.toNat_true, Bool.toNat_false] at shut ⊢
      omega
    · have read := follows_effort s.nav.notices s.caughtUp
      have caught : s.caughtUp.effort + 3 * s.nav.notices.length = s.effort := by
        simp only [effort, caughtUp, liveLoops, List.length_nil]
        omega
      omega

/-! A loop that has not ended lives on or makes room for another. -/

theorem setPhase_effort (live : s.hasEnded id = false) (phase : Phase J) :
    (s.setPhase id phase).effort + phase.isEnded.toNat = s.effort := by
  cases hl : s.loops[id]? with
  | none => simp [hasEnded, hl] at live
  | some l =>
    have hc := modifyLoop_liveLoops hl fun l => { l with phase }
    rw [← hasEnded_eq hl, live] at hc
    have hp : phase.isEnded.toNat + (!phase.isEnded).toNat = 1 := by cases phase.isEnded <;> rfl
    change (s.setPhase id phase).liveLoops + 1 = s.liveLoops + (!phase.isEnded).toNat at hc
    have hr : (s.setPhase id phase).effort = s.ready.length + (s.setPhase id phase).liveLoops +
      3 * s.nav.notices.length + s.watching.toNat := rfl
    rw [hr, effort]
    omega

theorem leaveChannel_effort (id : LoopId) (view : ViewId) (s : Session S P J) :
    (s.leaveChannel id view).effort ≤ s.effort + 1 := by
  unfold leaveChannel
  dsimp only
  split
  · split
    · exact Nat.le_succ s.effort
    · exact wake_effort _ _
  · exact Nat.le_succ s.effort

theorem endLoop_effort (live : s.hasEnded id = false) (view : ViewId) :
    (s.endLoop id view).effort ≤ s.effort :=
  Nat.le_trans (leaveChannel_effort id view _) (Nat.le_of_eq (setPhase_effort live .ended))

theorem conclude_effort (live : s.hasEnded id = false) (job : J) :
    (s.conclude b id view job).effort ≤ s.effort := by
  cases hp : s.page? view with
  | none => simpa only [conclude, hp] using endLoop_effort live view
  | some page =>
    rw [conclude_eq hp]
    dsimp only
    split
    · exact endLoop_effort (s := s.modifyPage view _) live view
    · exact Nat.le_of_eq (setPhase_effort (s := s.modifyPage view _) live .listening)

theorem listen_effort (live : s.hasEnded id = false) :
    (s.listen b id view).effort ≤ s.effort := by
  cases hp : s.page? view with
  | none =>
    simp only [listen, hp]
    split
    · exact endLoop_effort live view
    · split
      · exact Nat.le_of_eq (setPhase_effort live .listening)
      · exact endLoop_effort live view
  | some page =>
    rw [listen_eq hp]
    split
    · exact endLoop_effort live view
    split
    · exact Nat.le_of_eq (setPhase_effort live .listening)
    split
    · exact Nat.le_of_eq (setPhase_effort (s := s.takeUp b id view page) live (.refreshing _ true))
    · exact conclude_effort (s := s.takeUp b id view page) live _

theorem pollLoop_effort (b : Backend S P J) (id : LoopId) (s : Session S P J) :
    (s.pollLoop b id).effort ≤ s.effort := by
  cases hl : s.loops[id]? with
  | none => simp only [pollLoop, hl, Nat.le_refl]
  | some l =>
    by_cases ended : l.phase.isEnded = true
    · have hs : s.pollLoop b id = s := by
        cases hp : l.phase <;> simp [hp, Phase.isEnded, pollLoop, hl] at ended ⊢
      exact Nat.le_of_eq (congrArg effort hs)
    have live : s.hasEnded id = false := (hasEnded_eq hl).trans (eq_false_of_ne_true ended)
    cases poll_step b hl with
    | rested _ same => exact Nat.le_of_eq (congrArg effort same)
    | ended _ ends =>
      rw [ends]
      exact endLoop_effort live l.view
    | listened _ listens =>
      rw [listens]
      exact listen_effort live
    | claimed _ _ claims =>
      rw [claims]
      exact listen_effort (s := s.claim id l.view) live
    | queued _ _ _ waits =>
      rw [waits]
      exact Nat.le_of_eq (setPhase_effort (s := s.modifyChannel l.view _) live .queued)
    | answered job _ answers =>
      have concluded : (s.conclude b id l.view job).effort ≤ s.effort := conclude_effort live job
      rw [answers]
      split
      · exact concluded
      · next still =>
        exact Nat.le_trans (listen_effort (eq_false_of_ne_true still)) concluded

theorem poll_effort (b : Backend S P J) (task : Task) (s : Session S P J) :
    (s.poll b task).effort ≤ s.effort := by
  cases task with
  | watcher => exact pollWatcher_effort s
  | loop id => exact pollLoop_effort b id s

/-- A task that is ready takes its turn. -/
abbrev work (b : Backend S P J) (s : Session S P J) (task : Task) : Session S P J :=
  next b s (.poll task)

theorem work_effort (h : task ∈ s.ready) : (s.work b task).effort < s.effort := by
  have spent := dequeue_effort h
  have turn := poll_effort b task (s.dequeue task)
  change ((s.dequeue task).poll b task).effort < s.effort
  omega

/-- However the tasks that are ready take their turns, they are not many. -/
theorem work_ends {turns : List Task}
    (valid : Trace.Valid (fun s task => task ∈ s.ready) (work b) s turns) :
    turns.length ≤ s.turnBound := by
  refine Nat.le_trans ?_ (effort_le_turnBound s)
  induction turns generalizing s with
  | nil => exact Nat.zero_le _
  | cons task turns ih =>
    have rest := ih valid.2
    have first := work_effort (b := b) valid.1
    rw [List.length_cons]
    omega

/-- In the order in which they became ready, the tasks take their turns until none is. -/
theorem settle_idle (b : Backend S P J) (s : Session S P J) : (s.settle b).ready = [] := by
  suffices h : ∀ turns, s.effort ≤ turns → (run b turns s).ready = [] from
    h s.turnBound (effort_le_turnBound s)
  intro turns enough
  induction turns generalizing s with
  | zero =>
    rw [effort] at enough
    exact List.length_eq_zero_iff.mp (by rw [run]; omega)
  | succ turns ih =>
    unfold run
    cases hr : s.ready with
    | nil => exact hr
    | cons task rest =>
      have turn : s.work b task = poll b task { s with ready := rest } := by
        simp [next, dequeue, hr]
      have spent : (s.work b task).effort < s.effort := work_effort (hr ▸ List.mem_cons_self)
      rw [turn] at spent
      exact ih _ (by omega)

end Session
end ClusterDashboard
