import ClusterDashboard.Proofs.Refresh.Discipline
/-!
# No request is lost and none is served twice

A request that is accepted waits in the channel of its page until a loop takes it up and begins a
refresh. Whatever happens meanwhile to the loops, what was accepted is what was begun and what
still waits.
-/
namespace ClusterDashboard
namespace Session

variable {S P J : Type} {b : Backend S P J} {s : Session S P J} {id : LoopId} {view : ViewId}

def accepted (s : Session S P J) : Event S P → List ViewId
  | .trigger view => if (s.trigger view).2 then [view] else []
  | _ => []

abbrev acceptedAlong (b : Backend S P J) : Session S P J → List (Event S P) → List ViewId :=
  Trace.gather accepted (next b)

def refreshed (starts : StartLog) : List ViewId := starts.map (·.2)

theorem accepted_nil {e : Event S P} (h : ∀ view, e ≠ .trigger view) : accepted s e = [] := by
  cases e with
  | trigger view => exact absurd rfl (h view)
  | _ => rfl

theorem accepted_trigger (view v : ViewId) (s : Session S P J) :
    (accepted s (.trigger v : Event S P)).count view =
      if v = view ∧ (s.channel v).pending = false then 1 else 0 := by
  rw [accepted, trigger_accepted]
  by_cases hv : v = view <;> cases (s.channel v).pending <;> simp [hv]

theorem refreshed_count {starts : StartLog} {v : ViewId} (h : ∀ entry ∈ starts, entry = (id, v)) :
    (refreshed starts).count view = if v = view then starts.length else 0 := by
  have hm : ∀ w ∈ refreshed starts, w = v := by
    intro w hw
    obtain ⟨entry, he, rfl⟩ := List.mem_map.mp hw
    rw [h entry he]
  split
  · next hv =>
    subst hv
    have hc := List.count_eq_length.mpr fun w hw => (hm w hw).symm
    rw [hc, refreshed, List.length_map]
  · next hv =>
    apply List.count_eq_zero.mpr
    intro hw
    exact hv (hm view hw).symm

/-- What waited and what is accepted is what begins and what waits. -/
theorem Invariant.requests_step (h : Invariant s) {e : Event S P} (he : Enabled s e)
    (view : ViewId) :
    (s.channel view).pending.toNat + (accepted s e).count view =
      (refreshed (begun b s e)).count view +
        ((Session.next b s e).channel view).pending.toNat := by
  rcases next_cases b h.sound h.only_active he with ⟨v, rfl, hm⟩ | ⟨id, l, rfl, hl⟩ | ⟨ht, hb, hk⟩
  · have hr := trigger_requested hm
    change _ = 0 + ((s.trigger v).1.channel view).pending.toNat
    rw [accepted_trigger]
    by_cases hv : v = view
    · subst hv
      rw [hr.here]
      cases (s.channel v).pending <;> simp
    · rw [hr.elsewhere view (Ne.symm hv)]
      simp [hv]
  · obtain ⟨now, ht, -⟩ := h.turn b hl
    change _ + 0 = _
    rw [refreshed_count ht.own]
    split
    · next hv =>
      subst hv
      exact ht.requests
    · next hv =>
      rw [ht.elsewhere view (Ne.symm hv)]
      simp
  · rw [accepted_nil ht, hb, hk.channels]
    simp [refreshed]

theorem Invariant.requests_conserved (h : Invariant s) {events : List (Event S P)}
    (valid : ValidTrace b s events) (view : ViewId) :
    (s.channel view).pending.toNat + (acceptedAlong b s events).count view =
      (refreshed (begunAlong b s events)).count view +
        ((Session.runTrace b s events).channel view).pending.toNat := by
  induction events generalizing s with
  | nil => simp [Trace.gather, refreshed, Trace.run]
  | cons e events ih =>
    have hs := h.requests_step (b := b) valid.1 view
    have hr := ih (h.next valid.1) valid.2
    simp only [acceptedAlong, begunAlong, Session.runTrace, Trace.gather, Trace.run, refreshed,
      List.map_append, List.count_append] at hs hr ⊢
    omega

theorem start_channel {f : Factory P} {root : String} {source : S}
    (h : Session.start? f root source = some s) (view : ViewId) : s.channel view = {} := by
  obtain ⟨n, hn, rfl⟩ := Option.map_eq_some_iff.mp h
  obtain ⟨page, hp, rfl⟩ := Navigator.start_eq hn
  have hv : page.channel = {} := f.views_yields.1 root page hp
  have hs : ((Navigator.opening root page).shown root .table).views = [page] := by
    unfold Navigator.shown
    split <;> rfl
  cases view with
  | zero => simp [channel, hs, hv]
  | succ view => simp [channel, hs]

/-- At every moment of every run, the requests accepted for a page are the refreshes begun on it
and the one that still waits, if one does; a request is refused exactly when one waits. -/
theorem requests_accounted {f : Factory P} {root : String} {source : S} {start : Session S P J}
    (opened : Session.start? f root source = some start) {events : List (Event S P)}
    (valid : ValidTrace b start events) (view : ViewId) :
    let s := runTrace b start events
    (acceptedAlong b start events).count view =
        (refreshed (begunAlong b start events)).count view +
          (if (s.channel view).pending then 1 else 0) ∧
      ((s.trigger view).2 = false ↔ (s.channel view).pending = true) := by
  intro s
  have hc := (start_invariant opened).requests_conserved (b := b) valid view
  rw [start_channel opened] at hc
  constructor
  · have hp : (if (s.channel view).pending then 1 else 0) = (s.channel view).pending.toNat := by
      cases (s.channel view).pending <;> rfl
    rw [hp]
    simpa using hc
  · rw [trigger_accepted]
    cases (s.channel view).pending <;> simp

/-- Two requests come in before their page is left and found again; the first loop has listened,
but it is the third that serves them. A last request follows. -/
def bouncing : List (Event (Gates ViewId) CountedPage) :=
  [.poll .watcher, .poll (.loop 0), .trigger 0, .trigger 0,
    .operate (.navigate (CountedPage.factory []) "nodes"), .poll .watcher,
    .operate (.navigate (CountedPage.factory []) "pods"), .poll .watcher,
    .poll (.loop 2), .poll (.loop 0), .poll (.loop 2), .trigger 0]

theorem requests_accounted_after_bouncing : ∃ start : Rehearsal,
    Session.start? (CountedPage.factory []) "pods" [] = some start ∧
    ValidTrace CountedPage.backend start bouncing ∧
    acceptedAlong CountedPage.backend start bouncing = [0, 0] ∧
    begunAlong CountedPage.backend start bouncing = [(2, 0)] ∧
    let s := runTrace CountedPage.backend start bouncing
    (acceptedAlong CountedPage.backend start bouncing).count 0 =
        (refreshed (begunAlong CountedPage.backend start bouncing)).count 0 +
          (if (s.channel 0).pending then 1 else 0) ∧
      ((s.trigger 0).2 = false ↔ (s.channel 0).pending = true) := by
  have opened : Session.start? (CountedPage.factory []) "pods" [] = some (_ : Rehearsal) := rfl
  exact ⟨_, opened, by decide, by decide, by decide, requests_accounted opened (by decide) 0⟩

end Session
end ClusterDashboard
