import ClusterDashboard.Proofs.Dashboard.Handling
/-!
# Every navigation is followed by a refresh

An action that leads to a page asks for a refresh of it. The request may find the page new or long
known, its receiver in the hands of a loop that was retired, or another request before it; once the
background work has come to rest it has been served all the same, and none is left.
-/
namespace ClusterDashboard

namespace Session

variable {S P J : Type} {b : Backend S P J} {s t : Session S P J} {since : StartLog}

/-- The page in view has been refreshed since, or a request for it waits. -/
def Fresh (since : StartLog) (s : Session S P J) : Prop :=
  s.nav.currentView ∈ refreshed since ∨ s.Asked

theorem Fresh.handled (h : s.Fresh since) (k : Freshly s t) : t.Fresh since := by
  rcases k with ⟨hv, ha⟩ | ha
  · rw [Fresh, hv]
    exact h.imp_right ha
  · exact .inr ha

/-- A request that no longer waits has been taken up. -/
theorem Fresh.background (h : s.Fresh since) (hi : Invariant s) {e : Event S P}
    (he : Enabled s e) (hn : e.navigates = false) :
    (next b s e).Fresh (since ++ begun b s e) := by
  have hv : (next b s e).nav.currentView = s.nav.currentView :=
    congrArg (fun n : Navigator Unit => n.currentView) (next_course hn)
  rw [Fresh, Asked, hv, refreshed, List.map_append, List.mem_append]
  rcases h with hb | hs
  · exact .inl (.inl hb)
  · have waits : (s.channel s.nav.currentView).pending = true := hs
    have hr := hi.requests_step (b := b) he s.nav.currentView
    rw [waits] at hr
    cases hp : ((next b s e).channel s.nav.currentView).pending with
    | true => exact .inr rfl
    | false =>
      rw [hp] at hr
      have hc : 0 < (refreshed (begun b s e)).count s.nav.currentView := by
        simp only [Bool.toNat_true, Bool.toNat_false] at hr
        omega
      exact .inl (.inr (List.count_pos_iff.mp hc))

end Session

namespace Dashboard

open Session (Handles Visits Quiescent refreshed)

variable {S J : Type} {b : Backend S TablePage J} {d e : Dashboard S J} {step : Step S}
  {action : Action} {since : StartLog}

/-- The page that a word stands for. -/
def pageFor? (d : Dashboard S J) (word : String) : Option String :=
  match d.settings.kindOf? word with
  | some kind => some kind.token
  | none => d.catalog.pageName? (Text.lower word)

/-- The commands that lead to a page, word by word. -/
inductive Command (d : Dashboard S J) : List String → Prop where
  | resources {word : String} {arguments : List String}
    (known : word ∈ ["api-resources", "api", "res"]) : Command d (word :: arguments)
  | page {word name : String} {arguments : List String} (other : word ∉ ["q", "q!", "quit"])
    (plain : word ∈ ["ns", "namespace"] → arguments = []) (known : d.pageFor? word = some name) :
    Command d (word :: arguments)
  | scope {word space : String} {arguments : List String} (known : word ∈ ["ns", "namespace"])
    (effective : d.scope ≠ .ofArgument space) : Command d (word :: space :: arguments)

/-- The actions that lead to a page, be it the current one. -/
inductive Navigates (d : Dashboard S J) : Action → Prop where
  | digit {digit : Nat} {kind : BuiltinKind}
    (bound : d.settings.pages[if digit = 0 then 9 else digit - 1]? = some kind) :
    Navigates d (.goToPage digit)
  | command (typed : d.mode = .command) (leads : d.Command (Text.words d.input)) :
    Navigates d .submitInput
  | drillDown {row : Row} {name : String} (listing : d.page.kind = .apiResources)
    (selected : d.page.view.selectedRow? = some row)
    (listed : d.catalog.pageName? row.name = some name) : Navigates d .openRow
  | back : Navigates d .back
  | escape (bare : d.top.layer.isOverlay = false) : Navigates d .escape

/-- What is typed, and in which mode, does not matter. -/
theorem Command.typed {words : List String} (h : d.Command words) (input : String) (mode : Mode) :
    Command { d with input, mode } words := by
  cases h with
  | resources known => exact .resources known
  | page other plain known => exact .page other plain known
  | scope known effective => exact .scope known effective

theorem openWord_known {word name : String} (h : d.pageFor? word = some name) :
    d.openWord word = d.openPage name := by
  rw [pageFor?] at h
  rw [openWord]
  cases hk : d.settings.kindOf? word with
  | some kind =>
    rw [hk] at h
    cases h
    rfl
  | none =>
    rw [hk] at h
    dsimp only at h ⊢
    rw [h]

theorem runCommand_visits (hs : d.nav.Sound) {line : String} (h : d.Command (Text.words line)) :
    Visits b d.session (d.runCommand line).session := by
  rw [runCommand]
  generalize Text.words line = words at h
  cases h with
  | @resources word arguments known =>
    have hq : word ∉ ["q", "q!", "quit"] := by
      simp only [List.mem_cons, List.not_mem_nil, or_false] at known ⊢
      rcases known with rfl | rfl | rfl <;> decide
    simp only [if_neg hq, if_pos known]
    exact openPage_visits hs _
  | @page word name arguments other plain known =>
    have opens : Visits b d.session (d.openWord word).session := by
      rw [openWord_known known]
      exact openPage_visits hs name
    simp only [if_neg other]
    split
    · exact openPage_visits hs _
    · split
      · next space rest _ =>
        split
        · next hw => cases plain hw
        · exact opens
      · exact opens
  | @scope word space arguments known effective =>
    have hq : word ∉ ["q", "q!", "quit"] ∧ word ∉ ["api-resources", "api", "res"] := by
      simp only [List.mem_cons, List.not_mem_nil, or_false] at known ⊢
      rcases known with rfl | rfl <;> decide
    simp only [if_neg hq.1, if_neg hq.2, if_pos known]
    exact setScope_visits hs effective

theorem escape_visits (hs : d.nav.Sound) (bare : d.top.layer.isOverlay = false) :
    Visits b d.session d.escape.session := by
  rw [(escape_bare bare).2]
  exact (dismissOverlay_handles hs).visits (goBack_visits (dismissOverlay_sound hs))

theorem Navigates.dispatch_visits (h : d.Navigates action) (hs : d.nav.Sound) :
    Visits b d.session (d.dispatch action).1.session := by
  cases h with
  | @digit digit kind bound =>
    have hg : d.goToPage digit = d.openPage kind.token := by
      rw [goToPage, bound]
    change Visits b d.session (d.goToPage digit).session
    rw [hg]
    exact openPage_visits hs kind.token
  | command typed leads =>
    have hd : (nav { d with input := "", mode := .normal }).Sound := hs
    have hi : d.submitInput = runCommand d.input { d with input := "", mode := .normal } := by
      rw [submitInput, typed]
    change Visits b d.session d.submitInput.session
    rw [hi]
    exact runCommand_visits hd (leads.typed "" .normal)
  | @drillDown row name listing selected listed =>
    have ho : d.openRow = (d.openPage name, .none) := by
      rw [openRow, if_neg fun hn => hn listing, selected]
      dsimp only
      rw [listed]
    change Visits b d.session d.openRow.1.session
    rw [ho]
    exact openPage_visits hs name
  | back => exact goBack_visits hs
  | escape bare => exact escape_visits hs bare

theorem Navigates.visits (h : d.Navigates action) (hs : d.nav.Sound) :
    Visits b d.session (d.act action).1.session := by
  have hb : (d.act action).1.session = (d.dispatch action).1.session :=
    congrArg Bearing.session (syncStream_bearing (d.dispatch action).1)
  rw [hb]
  exact h.dispatch_visits hs

theorem fresh_next (h : Attended d.session) (hf : d.session.Fresh since)
    (he : step.Enabled d) : (step.next b d).session.Fresh (since ++ step.begun b d) := by
  cases hw : step.isWork with
  | false =>
    have hk : Handles b d.session (step.next b d).session :=
      (step.ensues b d hw).handles h.supervised.sound
    have hb : step.begun b d = [] := by
      cases step with
      | background event => cases hw
      | _ => rfl
    rw [hb, List.append_nil]
    exact hf.handled hk.freshly
  | true =>
    cases step with
    | background event => exact hf.background h.supervised.toInvariant he.1 he.2
    | runTimers =>
      have hb : Step.begun b d .runTimers = [] := rfl
      rw [hb, List.append_nil]
      exact hf
    | _ => cases hw

theorem fresh_along {steps : List (Step S)} (h : Attended d.session) (hf : d.session.Fresh since)
    (valid : Step.ValidTrace b d steps) (driven : ∀ step ∈ steps, step.isDirect = false) :
    (Step.runTrace b d steps).session.Fresh (since ++ Step.begunAlong b d steps) := by
  induction steps generalizing d since with
  | nil =>
    have hb : Step.begunAlong b d [] = [] := rfl
    rw [hb, List.append_nil]
    exact hf
  | cons step steps ih =>
    obtain ⟨hd, hds⟩ := List.forall_mem_cons.mp driven
    have hb : since ++ Step.begunAlong b d (step :: steps) =
        since ++ step.begun b d ++ Step.begunAlong b (step.next b d) steps :=
      (List.append_assoc ..).symm
    rw [hb]
    exact ih (h.next valid.1 hd) (fresh_next h hf valid.1) valid.2 hds

section Runs

variable {settings : Settings} {catalog : Catalog} {scope : Scope} {cluster context : String}
  {source : S} {start : Dashboard S J} {earlier later : List (Step S)}

/-- After an action that leads to a page, and whatever else comes after it, the page in view has
been refreshed since the action, and no request for it is left, as soon as no task has anything
left to do and nobody refreshes it. -/
theorem navigation_freshens
    (opened : start? settings catalog scope cluster context source = some start)
    (valid : Step.ValidTrace b start (earlier ++ .act action :: later))
    (driven : ∀ step ∈ earlier ++ later, step.isDirect = false)
    (navigates : (Step.runTrace b start earlier).Navigates action) :
    let acted := Step.runTrace b start (earlier ++ [.act action])
    let d := Step.runTrace b acted later
    d.session.inUse = true → Quiescent b d.session →
      (∀ l ∈ d.session.loops, l.view = d.nav.currentView → l.phase.isRefreshing = false) →
      d.nav.currentView ∈ refreshed (Step.begunAlong b acted later) ∧
        (d.session.channel d.nav.currentView).pending = false := by
  intro acted d alive quiet idle
  obtain ⟨hearlier, hlater⟩ := List.forall_mem_append.mp driven
  obtain ⟨past, future⟩ := Trace.valid_append.mp valid
  have ha : Attended (Step.runTrace b start earlier).session := run_attended opened past hearlier
  have hacted : acted = ((Step.runTrace b start earlier).act action).1 := Trace.run_append ..
  have asked : acted.session.Asked := by
    have hv := navigates.visits (b := b) ha.supervised.sound
    rw [hacted]
    exact hv.asked
  have attended : Attended acted.session := by
    have hn : Attended (Step.next b (Step.runTrace b start earlier) (.act action)).session :=
      ha.next trivial rfl
    rw [hacted]
    exact hn
  have rest : Step.ValidTrace b acted later := by
    rw [hacted]
    exact future.2
  have hf : d.session.Fresh ([] ++ Step.begunAlong b acted later) :=
    fresh_along attended (.inr asked) rest hlater
  have hd : Attended d.session :=
    attended.reach (Step.trace_session_reaches attended.supervised.sound rest hlater)
  have hn : (d.session.channel d.nav.currentView).pending = false :=
    hd.supervised.unasked_of_quiet hd.lined alive hd.told quiet idle
  refine ⟨hf.resolve_right fun hp => ?_, hn⟩
  cases hn.symm.trans hp

end Runs

/-- The pods are left while their refresh waits for its answer. -/
def leavingPods : List (Step TableSource) :=
  [.background (.supply { gated := ["pods"] }), .background (.poll .watcher),
    .background (.poll (.loop 0)), .act (.goToPage 2), .background (.poll .watcher),
    .background (.poll (.loop 1))]

/-- The pods have been found again: their new loop waits for the receiver until the answer comes
and the loop that was left behind ends. -/
def findingPods : List (Step TableSource) :=
  [.background (.poll .watcher), .background (.poll (.loop 2)), .tick, .background (.supply {}),
    .background (.resume 0), .background (.poll (.loop 0)), .background (.poll (.loop 1)),
    .background (.poll (.loop 2))]

theorem navigation_freshens_behind_retired_loop :
    ∃ start : Dashboard TableSource (Except Failure TableView),
      start? {} [] .all "kind" "kind" {} = some start ∧
      let acted := Step.runTrace TableSource.backend start (leavingPods ++ [.act .back])
      let d := Step.runTrace TableSource.backend acted findingPods
      (Step.runTrace TableSource.backend start leavingPods).Navigates .back ∧
      (acted.session.loops[0]?.map (·.phase.isRefreshing)) = some true ∧
      d.session.inUse = true ∧ Quiescent TableSource.backend d.session ∧
      Step.begunAlong TableSource.backend acted findingPods = [(2, 0)] ∧
      d.nav.currentView ∈ refreshed (Step.begunAlong TableSource.backend acted findingPods) ∧
        (d.session.channel d.nav.currentView).pending = false := by
  have opened : start? {} [] .all "kind" "kind" {} =
    some (_ : Dashboard TableSource (Except Failure TableView)) := rfl
  refine ⟨_, opened, .back, by decide +kernel, ?alive, ?quiet, by decide +kernel,
    navigation_freshens opened (by decide) (by decide) .back ?alive ?quiet ?idle⟩
  case alive => decide +kernel
  case quiet =>
    exact Session.quiescent_of_rest (by decide +kernel) (by decide +kernel) (by decide +kernel)
  case idle => decide +kernel

end Dashboard
end ClusterDashboard
