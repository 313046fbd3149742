import ClusterDashboard.Proofs.Navigation.Consistency
/-!
# There and back again

The history is a stack. Visits to other pages and steps back that are properly nested leave the
navigator where it was, but for the layer that was shown when it first left; and steps back walk
through the visited pages in reverse. Names that resolve to the root page, repeated names and an
exhausted history make no difference.
-/
namespace ClusterDashboard

/-- What is left of the layer on a page that has been left: the menu, logs, questions and messages
give way to the table. -/
def Layer.leftBehind : Layer → Layer
  | .table => .table
  | .detail title body => .detail title body
  | .menu => .table
  | .logs _ => .table
  | .confirm _ => .table
  | .status _ _ => .table

theorem Layer.settled_eq_leftBehind (layer : Layer) : layer.settled = layer.leftBehind := by
  cases layer <;> rfl

theorem Track.settled_settled (track : Track) : track.settled.settled = track.settled := by
  have hl : track.layer.settled.settled = track.layer.settled := by
    rw [Layer.settled, if_neg (by simp [Layer.settled_not_transient])]
  simp only [settled, hl]

attribute [ext] History

namespace History

theorem settleTop_settleTop (h : History) : h.settleTop.settleTop = h.settleTop := by
  cases ht : h.tracks with
  | nil => simp [settleTop, ht]
  | cons track below =>
    simp [settleTop, ht, Track.settled_settled]

theorem settleTop_top_name (h : History) : h.settleTop.top.name = h.top.name := by
  cases ht : h.tracks with
  | nil => simp [settleTop, top, ht]
  | cons track below => simp [settleTop, top, ht, Track.settled]

theorem settleTop_size (h : History) : h.settleTop.size = h.size := by
  cases ht : h.tracks <;> simp [settleTop, size, ht]

theorem settleTop_tracks_cons {h : History} {top : Track} {below : List Track}
    (ht : h.tracks = top :: below) :
    h.settleTop.tracks = ⟨top.name, top.layer.leftBehind⟩ :: below := by
  simp only [settleTop, ht, Track.settled, Layer.settled_eq_leftBehind]

end History

namespace Navigator

variable {P : Type} {n home : Navigator P} {f : Factory P} {name : String} {layer : Layer}
  {depth : Nat}

inductive Move (P : Type) where
  | visit (f : Factory P) (name : String) (layer : Layer)
  | back (f : Factory P)

namespace Move

def apply (n : Navigator P) : Move P → Navigator P
  | .visit f name layer => (n.switchPage f name layer).1
  | .back f => (n.goBack f).1

/-- The entry that a move ends on. -/
def track (n : Navigator P) : Move P → Track
  | .visit f name layer => (n.switchPage f name layer).2
  | .back f => (n.goBack f).2

/-- A visit to another page; what counts is the page that the name leads to. -/
def Leaves (n : Navigator P) : Move P → Prop
  | .visit f name _ => n.landing f name ≠ n.current
  | .back _ => False

instance (n : Navigator P) : (move : Move P) → Decidable (Leaves n move)
  | .visit f name _ => inferInstanceAs (Decidable (n.landing f name ≠ n.current))
  | .back _ => inferInstanceAs (Decidable False)

end Move

abbrev walk (n : Navigator P) (moves : List (Move P)) : Navigator P := Trace.run Move.apply n moves

/-- From `depth` visits away to where the first of them set out: every visit leads to another page,
and no step goes back further. -/
def Excursion : Nat → Navigator P → List (Move P) → Prop
  | depth, _, [] => depth = 0
  | depth, n, .visit f name layer :: moves =>
    n.landing f name ≠ n.current ∧ Excursion (depth + 1) ((Move.visit f name layer).apply n) moves
  | depth, n, .back f :: moves => 0 < depth ∧ Excursion (depth - 1) ((Move.back f).apply n) moves

instance decidableExcursion : (depth : Nat) → (n : Navigator P) → (moves : List (Move P)) →
    Decidable (Excursion depth n moves)
  | depth, _, [] => inferInstanceAs (Decidable (depth = 0))
  | depth, n, .visit f name layer :: moves =>
    have := decidableExcursion (depth + 1) ((Move.visit f name layer).apply n) moves
    inferInstanceAs (Decidable (n.landing f name ≠ n.current ∧ Excursion (depth + 1) _ moves))
  | depth, n, .back f :: moves =>
    have := decidableExcursion (depth - 1) ((Move.back f).apply n) moves
    inferInstanceAs (Decidable (0 < depth ∧ Excursion (depth - 1) _ moves))

/-- The names of the pages that moves set out from, in order. -/
abbrev departures (n : Navigator P) (moves : List (Move P)) : List String :=
  Trace.gather (fun n _ => [n.current]) Move.apply n moves

/-- The names of the pages that moves end on, in order. -/
abbrev arrivals (n : Navigator P) (moves : List (Move P)) : List String :=
  Trace.gather (fun n move => [(move.track n).name]) Move.apply n moves

/-- So many visits away from home: the entries passed through lie on the history of home, and the
pages of all of them are still there. -/
structure Away (home : Navigator P) (depth : Nat) (n : Navigator P) : Prop where
  sound : n.Sound
  root : n.history.root = home.history.root
  kept : ∀ name view, home.page? name = some view → n.page? name = some view
  passed : ∃ passed : List Track, passed.length = depth ∧
    n.history.tracks = passed ++ home.history.settleTop.tracks ∧
    ∀ track ∈ passed, ∃ view, n.page? track.name = some view

theorem switchPage_history (h : n.landing f name ≠ n.current) :
    (n.switchPage f name layer).1.history =
      n.history.settleTop.push ⟨n.landing f name, layer⟩ := by
  have hc := ensure_same_course n f name
  have hne : (n.ensure f name).1.current ≠ n.landing f name := by
    rw [hc.current]
    exact Ne.symm h
  rw [switchPage_eq, shown, if_neg hne]
  exact congrArg (fun h : History => h.settleTop.push ⟨n.landing f name, layer⟩) hc.history

theorem switchPage_page? (f : Factory P) (name : String) (layer : Layer) (key : String) :
    (n.switchPage f name layer).1.page? key = (n.ensure f name).1.page? key := by
  rw [switchPage_eq, page?, (shown_same_pages _ _ _).pages, page?]

/-- A visit goes one page further away. What was on top before is settled. -/
theorem away_of_visit (hs : n.Sound) (hl : n.landing f name ≠ n.current)
    (root : n.history.root = home.history.root)
    (kept : ∀ name view, home.page? name = some view → n.page? name = some view)
    (passed : List Track)
    (history : n.history.settleTop.tracks = passed ++ home.history.settleTop.tracks)
    (registered : ∀ track ∈ passed, ∃ view, n.page? track.name = some view) :
    Away home (passed.length + 1) (n.switchPage f name layer).1 where
  sound := hs.apply (.switchPage f name layer)
  root := by
    rw [switchPage_history hl]
    exact root
  kept key view hv := by
    rw [switchPage_page?]
    exact ensure_keeps_pages (kept key view hv)
  passed := by
    refine ⟨⟨n.landing f name, layer⟩ :: passed, List.length_cons, ?_, ?_⟩
    · rw [switchPage_history hl, History.push, history, List.cons_append]
    · intro track ht
      rw [switchPage_page?]
      rcases List.mem_cons.mp ht with rfl | ht
      · exact landing_registered hs.toGrounded f name
      · obtain ⟨view, hv⟩ := registered track ht
        exact ⟨view, ensure_keeps_pages hv⟩

theorem Sound.leave (h : home.Sound) (hl : home.landing f name ≠ home.current) :
    Away home 1 (home.switchPage f name layer).1 :=
  away_of_visit h hl rfl (fun _ _ hv => hv) [] rfl nofun

namespace Away

theorem visit (h : Away home depth n) (hl : n.landing f name ≠ n.current) :
    Away home (depth + 1) (n.switchPage f name layer).1 := by
  obtain ⟨passed, rfl, ht, hr⟩ := h.passed
  cases passed with
  | nil =>
    have hn : n.history = home.history.settleTop := History.ext h.root ht
    refine away_of_visit h.sound hl h.root h.kept [] ?_ nofun
    rw [hn, History.settleTop_settleTop]
    rfl
  | cons track passed =>
    refine away_of_visit h.sound hl h.root h.kept (track.settled :: passed) ?_ ?_
    · rw [History.settleTop, ht]
      rfl
    intro other ho
    rcases List.mem_cons.mp ho with rfl | ho
    · exact hr track List.mem_cons_self
    · exact hr other (List.mem_cons_of_mem _ ho)

/-- The page that a step back leads to has been there since it was left. -/
theorem next_registered (hs : home.Sound) (h : Away home (depth + 1) n) :
    ∃ view, n.steppedBack.page? n.steppedBack.top.name = some view := by
  obtain ⟨passed, hl, ht, hr⟩ := h.passed
  cases passed with
  | nil => cases hl
  | cons track passed =>
    have hb : n.steppedBack.history.tracks = passed ++ home.history.settleTop.tracks := by
      rw [steppedBack, History.pop, ht]
      rfl
    cases passed with
    | nil =>
      have htop : n.steppedBack.top.name = home.current := by
        have hh : n.steppedBack.history = home.history.settleTop := History.ext h.root hb
        rw [top, hh, History.settleTop_top_name]
        exact hs.top_current
      rw [htop]
      exact ⟨_, h.kept _ _ hs.currentView_eq⟩
    | cons next passed =>
      have htop : n.steppedBack.top = next := by
        rw [top, History.top, hb]
        rfl
      rw [htop]
      exact hr next (List.mem_cons_of_mem _ List.mem_cons_self)

theorem back (hs : home.Sound) (h : Away home (depth + 1) n) (f : Factory P) :
    Away home depth (n.goBack f).1 := by
  obtain ⟨view, hv⟩ := h.next_registered hs
  have hg : (n.goBack f).1 = n.steppedBack.followTop := by
    rw [goBack_eq, ensure_registered hv]
    rfl
  have hh : n.steppedBack.followTop.history = n.history.pop := by
    rw [followTop]
    split <;> rfl
  have hp : ∀ key, n.steppedBack.followTop.page? key = n.page? key := by
    intro key
    rw [page?, (followTop_same_stock _).pages]
    rfl
  obtain ⟨passed, hl, ht, hr⟩ := h.passed
  refine ⟨h.sound.apply (.goBack f), ?_, ?_, ?_⟩
  · rw [hg, hh]
    exact h.root
  · intro name view hv
    rw [hg, hp]
    exact h.kept name view hv
  · refine ⟨passed.tail, by rw [List.length_tail, hl]; rfl, ?_, ?_⟩
    · rw [hg, hh, History.pop, ht, List.tail_append_of_ne_nil]
      rintro rfl
      cases hl
    · intro track hm
      rw [hg, hp]
      exact hr track (List.mem_of_mem_tail hm)

/-- What an excursion from further away comes back to. -/
theorem walk (hs : home.Sound) {moves : List (Move P)} (h : Away home depth n)
    (he : Excursion depth n moves) : Away home 0 (n.walk moves) := by
  induction moves generalizing n depth with
  | nil =>
    obtain rfl : depth = 0 := he
    exact h
  | cons move moves ih =>
    cases move with
    | visit f name layer => exact ih (h.visit he.1) he.2
    | back f =>
      obtain ⟨depth, rfl⟩ := Nat.exists_eq_succ_of_ne_zero (Nat.pos_iff_ne_zero.mp he.1)
      exact ih (h.back hs f) he.2

theorem home_history (h : Away home 0 n) : n.history = home.history.settleTop := by
  obtain ⟨passed, hl, ht, -⟩ := h.passed
  rw [List.length_eq_zero_iff.mp hl] at ht
  exact History.ext h.root ht

theorem home_current (hs : home.Sound) (h : Away home 0 n) : n.current = home.current := by
  rw [← h.sound.top_current, ← hs.top_current, top, h.home_history, History.settleTop_top_name]
  rfl

theorem home_view (hs : home.Sound) (h : Away home 0 n) : n.currentView = home.currentView := by
  have hv := h.kept _ _ hs.currentView_eq
  rw [← h.home_current hs, h.sound.currentView_eq] at hv
  exact Option.some.inj hv

end Away

/-- The same page is current, and shown by the same view; the history has the same entries, but if
there was a move at all the newest of them has lost what does not outlast a page's being left. -/
structure Returned (home : Navigator P) (moves : List (Move P)) : Prop where
  current : (home.walk moves).current = home.current
  currentView : (home.walk moves).currentView = home.currentView
  size : (home.walk moves).history.size = home.history.size
  root : (home.walk moves).history.root = home.history.root
  exhausted : home.history.tracks = [] → (home.walk moves).history.tracks = []
  entries : ∀ top below, home.history.tracks = top :: below →
    (home.walk moves).history.tracks =
      ⟨top.name, if moves.isEmpty then top.layer else top.layer.leftBehind⟩ :: below

theorem Sound.returned (hs : home.Sound) {moves : List (Move P)} (he : Excursion 0 home moves) :
    Returned home moves := by
  cases moves with
  | nil => exact ⟨rfl, rfl, rfl, rfl, id, fun _ _ ht => ht⟩
  | cons move moves =>
    cases move with
    | back f => exact absurd he.1 (Nat.lt_irrefl 0)
    | visit f name layer =>
      have h : Away home 0 (home.walk (.visit f name layer :: moves)) :=
        (hs.leave he.1).walk hs he.2
      refine ⟨h.home_current hs, h.home_view hs, ?_, h.root, fun none => ?_, fun top below ht => ?_⟩
      · rw [h.home_history, History.settleTop_size]
      · rw [h.home_history, History.settleTop, none]
      · rw [h.home_history]
        exact History.settleTop_tracks_cons ht

theorem excursion_of_backs (n : Navigator P) (backs : List (Factory P)) :
    Excursion backs.length n (backs.map .back) := by
  induction backs generalizing n with
  | nil => rfl
  | cons f backs ih => exact ⟨Nat.succ_pos _, ih _⟩

/-- As many steps back as there were visits. -/
theorem excursion_of_visits {visits : List (Move P)} {backs : List (Factory P)}
    (hv : Trace.Valid Move.Leaves Move.apply n visits)
    (hl : depth + visits.length = backs.length) :
    Excursion depth n (visits ++ backs.map .back) := by
  induction visits generalizing n depth with
  | nil =>
    obtain rfl : depth = backs.length := hl
    exact excursion_of_backs n backs
  | cons visit visits ih =>
    cases visit with
    | back f => exact absurd hv.1 not_false
    | visit f name layer =>
      refine ⟨hv.1, ih hv.2 ?_⟩
      rw [List.length_cons] at hl
      omega

theorem Sound.goBack_track (hs : n.Sound) (f : Factory P) :
    (n.goBack f).2.name = (n.goBack f).1.current := by
  rw [Navigator.goBack_track]
  exact (hs.apply (.goBack f)).top_current

theorem Sound.move (hs : n.Sound) (move : Move P) : (move.apply n).Sound := by
  cases move with
  | visit f name layer => exact hs.apply (.switchPage f name layer)
  | back f => exact hs.apply (.goBack f)

theorem Sound.walk (hs : n.Sound) (moves : List (Move P)) : (n.walk moves).Sound := by
  induction moves generalizing n with
  | nil => exact hs
  | cons move moves ih => exact ih (hs.move move)

/-- Steps back end on the pages that the visits set out from, last page first. -/
theorem Sound.arrivals_eq (hs : home.Sound) {visits : List (Move P)} {backs : List (Factory P)}
    (hv : Trace.Valid Move.Leaves Move.apply home visits) (hl : backs.length = visits.length) :
    arrivals (home.walk visits) (backs.map .back) = (departures home visits).reverse := by
  induction visits generalizing home backs with
  | nil =>
    rw [List.length_eq_zero_iff.mp hl]
    rfl
  | cons visit visits ih =>
    rcases backs.eq_nil_or_concat with rfl | ⟨earlier, f, hb⟩
    · cases hl
    · rw [List.concat_eq_append] at hb
      subst hb
      have hlen : earlier.length = visits.length := by
        rw [List.length_append, List.length_cons, List.length_cons] at hl
        exact Nat.succ.inj hl
      have first := ih (hs.move visit) hv.2 hlen
      -- the last step back comes home
      have hr := hs.returned (excursion_of_visits hv ((Nat.zero_add _).trans hl.symm))
      have last : home.current =
          ((Move.back f).track ((home.walk (visit :: visits)).walk (earlier.map .back))).name := by
        have hsl := (hs.walk (visit :: visits)).walk (earlier.map .back)
        rw [Move.track, hsl.goBack_track, ← hr.current, List.map_append, ← List.append_assoc]
        simp only [Navigator.walk, Trace.run_append]
        rfl
      rw [List.map_append, arrivals, Trace.gather_append]
      have hd : departures home (visit :: visits) =
          home.current :: departures (visit.apply home) visits := rfl
      rw [hd, List.reverse_cons, ← first, last]
      rfl

/-- Wherever the navigator has got to, properly nested visits and steps back lead back there; and
as many steps back as there were visits walk back through the pages that were left. -/
theorem excursions_return {root : String} {start : Navigator P}
    (opened : start? f root = some start) (operations : List (Operation P)) :
    let home := start.after operations
    (∀ moves, Excursion 0 home moves → Returned home moves) ∧
    ∀ (visits : List (Move P)) (backs : List (Factory P)),
      Trace.Valid Move.Leaves Move.apply home visits → backs.length = visits.length →
        arrivals (home.walk visits) (backs.map .back) = (departures home visits).reverse ∧
          Returned home (visits ++ backs.map .back) := by
  intro home
  have hs : home.Sound := (start_sound opened).after operations
  refine ⟨fun moves he => hs.returned he, ?_⟩
  intro visits backs hv hl
  have he := excursion_of_visits hv ((Nat.zero_add _).trans hl.symm)
  exact ⟨hs.arrivals_eq hv hl, hs.returned he⟩

/-- Pages visited under layers of all kinds, one of them twice; a page that is refused leads to the
root page. -/
def roundabout : List (Move CountedPage) :=
  let all := CountedPage.factory []
  [.visit all "nodes" (.logs "logs pods/web"), .visit (CountedPage.factory ["jobs"]) "jobs" .menu,
    .visit all "nodes" (.detail "yaml" "kind: Node"), .visit all "jobs" (.confirm "Delete?")]

/-- From a page with a question, from one with a detail, and from an exhausted history. -/
theorem excursions_return_from_overlaid_and_exhausted :
    let all := CountedPage.factory []
    let none := CountedPage.factory ["pods", "nodes", "jobs"]
    let backs := List.replicate 4 none
    let nested := [.visit all "jobs" .menu, .visit none "svc" .table, .back none,
      .visit (CountedPage.factory ["sts"]) "sts" .table, .back all, .back none]
    ∃ start, start? all "pods" = some start ∧
      (let home := start.after [.switchPage all "nodes" (.confirm "Delete?")]
       home.history.tracks = [⟨"nodes", .confirm "Delete?"⟩, ⟨"pods", .table⟩] ∧
         Returned home nested ∧
         (home.walk nested).history.tracks = [⟨"nodes", .table⟩, ⟨"pods", .table⟩]) ∧
      (let home := start.after [.switchPage all "nodes" (.detail "yaml" "kind: Node")]
       home.history.tracks = [⟨"nodes", .detail "yaml" "kind: Node"⟩, ⟨"pods", .table⟩] ∧
         Returned home nested ∧ (home.walk nested).history.tracks = home.history.tracks) ∧
      let home := start.after [.goBack all]
      home.history.tracks = [] ∧
        departures home roundabout = ["pods", "nodes", "pods", "nodes"] ∧
        arrivals (home.walk roundabout) (backs.map .back) = ["nodes", "pods", "nodes", "pods"] ∧
        Returned home (roundabout ++ backs.map .back) ∧
        Returned home nested := by
  intro all none backs nested
  have opened : start? all "pods" = some _ := rfl
  have asked := (excursions_return opened [.switchPage all "nodes" (.confirm "Delete?")]).1
    nested (by decide)
  have detailed := (excursions_return opened
    [.switchPage all "nodes" (.detail "yaml" "kind: Node")]).1 nested (by decide)
  obtain ⟨returned, reversed⟩ := excursions_return opened [.goBack all]
  have hr := reversed roundabout backs (by decide) rfl
  exact ⟨_, opened, ⟨rfl, asked, asked.entries _ _ rfl⟩, ⟨rfl, detailed, detailed.entries _ _ rfl⟩,
    rfl, by decide, hr.1.trans (by decide), hr.2, returned nested (by decide)⟩

end Navigator
end ClusterDashboard
