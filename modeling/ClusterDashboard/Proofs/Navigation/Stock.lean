import ClusterDashboard.Proofs.Navigation.Operations
/-!
# What operations do to the pages

An operation leaves the pages alone, makes one page where none is registered, or tears all down and
makes the root page and the current page anew. Each page that it makes is put back where its name
was last left. Nothing but a recorded position changes what is remembered of positions.
-/
namespace ClusterDashboard.Navigator

variable {P : Type} {n m k : Navigator P} {op : Operation P} {f : Factory P} {Q R : P → Prop}

/-- The factory that an operation may ask for pages. -/
def Operation.factory? : Operation P → Option (Factory P)
  | .switchPage f _ _ | .navigate f _ | .goBack f | .reload f => some f
  | .showMenu | .hideMenu | .dismissOverlay | .recordPosition _ _ => none

def Operation.Yields (Q : P → Prop) : Operation P → Prop
  | .switchPage f _ _ | .navigate f _ | .goBack f | .reload f => f.Yields Q
  | .showMenu | .hideMenu | .dismissOverlay | .recordPosition _ _ => True

theorem Operation.Yields.factory (h : op.Yields Q) (asks : op.factory? = some f) :
    f.Yields Q := by
  cases op with
  | switchPage g name layer => exact Option.some.inj asks ▸ h
  | navigate g name => exact Option.some.inj asks ▸ h
  | goBack g => exact Option.some.inj asks ▸ h
  | reload g => exact Option.some.inj asks ▸ h
  | showMenu | hideMenu | dismissOverlay | recordPosition => cases asks

theorem Operation.yields_of_factory (h : ∀ f, op.factory? = some f → f.Yields Q) :
    op.Yields Q := by
  cases op with
  | switchPage f | navigate f | goBack f | reload f => exact h f rfl
  | showMenu | hideMenu | dismissOverlay | recordPosition => trivial

/-- The same pages are registered, under the same names. -/
structure SamePages (m n : Navigator P) : Prop where
  root : m.root = n.root
  pages : m.pages = n.pages

/-- The pages are the same, and so is what is remembered of them. -/
structure SameStock (m n : Navigator P) : Prop extends SamePages m n where
  rootView : m.rootView = n.rootView
  views : m.views = n.views
  positions : m.positions = n.positions

theorem SameStock.trans (h : SameStock k m) (hm : SameStock m n) : SameStock k n :=
  ⟨⟨h.root.trans hm.root, h.pages.trans hm.pages⟩, h.rootView.trans hm.rootView,
    h.views.trans hm.views, h.positions.trans hm.positions⟩

theorem shown_same_stock (n : Navigator P) (target : String) (layer : Layer) :
    SameStock (n.shown target layer) n := by
  rw [shown]
  split <;> exact ⟨⟨rfl, rfl⟩, rfl, rfl, rfl⟩

theorem shown_same_pages (n : Navigator P) (target : String) (layer : Layer) :
    SamePages (n.shown target layer) n := (shown_same_stock n target layer).toSamePages

theorem withReturn_same_stock (n : Navigator P) (found : Bool) :
    SameStock (n.withReturn found) n := by
  cases found <;> exact ⟨⟨rfl, rfl⟩, rfl, rfl, rfl⟩

theorem followTop_same_stock (n : Navigator P) : SameStock n.followTop n := by
  rw [followTop]
  split <;> exact ⟨⟨rfl, rfl⟩, rfl, rfl, rfl⟩

theorem showMenu_same_stock (n : Navigator P) : SameStock n.showMenu.1 n := by
  rw [showMenu]
  split <;> exact ⟨⟨rfl, rfl⟩, rfl, rfl, rfl⟩

theorem hideMenu_same_stock (n : Navigator P) : SameStock n.hideMenu.1 n := by
  rw [hideMenu]
  split
  · exact ⟨⟨rfl, rfl⟩, rfl, rfl, rfl⟩
  · dsimp only
    split <;> exact ⟨⟨rfl, rfl⟩, rfl, rfl, rfl⟩

theorem dismissOverlay_same_stock (n : Navigator P) : SameStock n.dismissOverlay.1 n := by
  rw [dismissOverlay]
  split <;> exact ⟨⟨rfl, rfl⟩, rfl, rfl, rfl⟩

/-- What is registered decides which page is made. -/
theorem SameStock.ensure (h : SameStock m n) (f : Factory P) (name : String) :
    SameStock (m.ensure f name).1 (n.ensure f name).1 := by
  have there : m.page? name = n.page? name := by rw [page?, h.pages, page?]
  have placed (page : P) : m.placed f name page = n.placed f name page := by
    rw [Navigator.placed, h.positions, Navigator.placed]
  cases hp : n.page? name with
  | some view =>
    rw [ensure_registered hp, ensure_registered (there.trans hp)]
    exact h
  | none =>
    cases hf : f.make name with
    | none =>
      rw [ensure_refused hp hf, ensure_refused (there.trans hp) hf]
      exact h
    | some page =>
      rw [ensure_made hp hf, ensure_made (there.trans hp) hf, placed, h.views, h.pages]
      exact ⟨⟨h.root, rfl⟩, h.rootView, rfl, h.positions⟩

theorem reload_same_stock (n : Navigator P) (f : Factory P) :
    SameStock (n.reload f) ((n.rebuilt f).ensure f n.current).1 := by
  rw [reload_eq, ← rebuilt_current n f]
  dsimp only
  split
  · exact ⟨⟨rfl, rfl⟩, rfl, rfl, rfl⟩
  · have left := withReturn_same_stock ((n.rebuilt f).ensure f (n.rebuilt f).current).1 false
    exact ⟨⟨left.root, left.pages⟩, left.rootView, left.views, left.positions⟩

/-- What an operation does to the pages. -/
inductive StockStep (n m : Navigator P) (op : Operation P) : Prop where
  | recorded (page : String) (position : Position) (wish : op = .recordPosition page position)
    (put : m = n.recordPosition page position)
  | kept (asks : op.factory? = none) (still : op.isReload = false) (same : SameStock m n)
  | ensured (f : Factory P) (name : String) (asks : op.factory? = some f)
    (still : op.isReload = false) (same : SameStock m (n.ensure f name).1)
  | rebuilt (f : Factory P) (wish : op = .reload f)
    (same : SameStock m ((n.rebuilt f).ensure f n.current).1)

theorem Operation.stock_step (op : Operation P) (n : Navigator P) :
    StockStep n (op.apply n) op := by
  cases op with
  | switchPage f name layer =>
    refine .ensured f name rfl rfl ?_
    rw [apply, switchPage_eq]
    exact shown_same_stock _ _ _
  | navigate f name =>
    refine .ensured f name rfl rfl ?_
    rw [apply, Navigator.navigate, switchPage_eq]
    exact shown_same_stock _ _ _
  | goBack f =>
    have stepped : SameStock n.steppedBack n := ⟨⟨rfl, rfl⟩, rfl, rfl, rfl⟩
    refine .ensured f n.steppedBack.top.name rfl rfl ?_
    rw [apply, goBack_eq]
    exact ((followTop_same_stock _).trans (withReturn_same_stock _ _)).trans
      (stepped.ensure f n.steppedBack.top.name)
  | showMenu => exact .kept rfl rfl (showMenu_same_stock n)
  | hideMenu => exact .kept rfl rfl (hideMenu_same_stock n)
  | dismissOverlay => exact .kept rfl rfl (dismissOverlay_same_stock n)
  | reload f => exact .rebuilt f rfl (reload_same_stock n f)
  | recordPosition page position => exact .recorded page position rfl rfl

theorem Operation.apply_root (n : Navigator P) (op : Operation P) : (op.apply n).root = n.root := by
  cases op.stock_step n with
  | recorded page position _ put =>
    rw [put]
    rfl
  | kept _ _ same => exact same.root
  | ensured f name _ _ same => exact same.root.trans (ensure_same_course n f name).root
  | rebuilt f _ same =>
    exact (same.root.trans (ensure_same_course _ f _).root).trans (rebuilt_root n f)

theorem StockStep.positions (step : StockStep n m op)
    (h : ∀ page position, op ≠ .recordPosition page position) : m.positions = n.positions := by
  cases step with
  | recorded page position wish put => exact absurd wish (h page position)
  | kept _ _ same => exact same.positions
  | ensured f name _ _ same => exact same.positions.trans (ensure_same_course n f name).positions
  | rebuilt f _ same =>
    exact (same.positions.trans (ensure_same_course _ f _).positions).trans (rebuilt_positions n f)

/-- New pages come after the old ones, and each has the property. -/
def Grows (Q : P → Prop) (n m : Navigator P) : Prop :=
  ∃ pages, m.views = n.views ++ pages ∧ ∀ page ∈ pages, Q page

theorem grows_of_same (h : m.views = n.views) : Grows Q n m :=
  ⟨[], by simp [h], by simp⟩

theorem Grows.trans (h : Grows Q n m) (hk : Grows Q m k) : Grows Q n k := by
  obtain ⟨first, hf, hq⟩ := h
  obtain ⟨second, hs, hr⟩ := hk
  refine ⟨first ++ second, by rw [hs, hf, List.append_assoc], ?_⟩
  intro page hm
  exact (List.mem_append.mp hm).elim (hq page) (hr page)

theorem Grows.le (h : Grows Q n m) : n.views.length ≤ m.views.length := by
  obtain ⟨pages, hv, -⟩ := h
  rw [hv, List.length_append]
  exact Nat.le_add_right ..

/-- The pages that are there keep their numbers. -/
theorem Grows.keeps (h : Grows Q n m) {view : ViewId} {made : P} (hv : n.views[view]? = some made) :
    m.views[view]? = some made := by
  obtain ⟨pages, views, -⟩ := h
  rw [views, List.getElem?_append_left (List.getElem?_eq_some_iff.mp hv).1]
  exact hv

theorem Grows.mono (h : Grows Q n m) (hqr : ∀ page, Q page → R page) : Grows R n m := by
  obtain ⟨pages, hv, hq⟩ := h
  exact ⟨pages, hv, fun page hm => hqr page (hq page hm)⟩

/-- The factory makes the page, which is put back where its name was last left. -/
def Made (n : Navigator P) (f : Factory P) (made : P) : Prop :=
  ∃ name page, f.make name = some page ∧ made = n.placed f name page

theorem Made.of_positions {made : P} (h : m.Made f made) (hp : m.positions = n.positions) :
    n.Made f made := by
  obtain ⟨name, page, hm, rfl⟩ := h
  exact ⟨name, page, hm, by rw [placed, hp, placed]⟩

theorem placed_yields (hf : f.Yields Q) {name : String} {page : P} (h : f.make name = some page) :
    Q (n.placed f name page) := by
  unfold placed
  split
  · exact hf.2 _ _ (hf.1 _ _ h)
  · exact hf.1 _ _ h

theorem Made.yields {made : P} (h : n.Made f made) (hf : f.Yields Q) : Q made := by
  obtain ⟨name, page, hm, rfl⟩ := h
  exact placed_yields hf hm

theorem ensure_grows (n : Navigator P) (f : Factory P) (name : String) :
    Grows (n.Made f) n (n.ensure f name).1 := by
  cases hp : n.page? name with
  | some view =>
    rw [ensure_registered hp]
    exact grows_of_same rfl
  | none =>
    cases hf : f.make name with
    | none =>
      rw [ensure_refused hp hf]
      exact grows_of_same rfl
    | some page =>
      rw [ensure_made hp hf]
      exact ⟨[n.placed f name page], rfl, by simpa using ⟨name, page, hf, rfl⟩⟩

theorem getElem?_concat {l : List P} {a x : P} {i : Nat} (h : (l ++ [a])[i]? = some x) :
    l[i]? = some x ∨ i = l.length ∧ x = a := by
  rw [List.getElem?_append] at h
  split at h
  · exact .inl h
  · next beyond =>
    simp only [List.getElem?_singleton] at h
    split at h
    · next last => exact .inr ⟨by omega, (Option.some.inj h).symm⟩
    · cases h

theorem ensure_view_cases {name : String} {view : ViewId} {made : P}
    (h : (n.ensure f name).1.views[view]? = some made) :
    n.views[view]? = some made ∨ view = n.views.length ∧ n.page? name = none ∧
      ∃ page, f.make name = some page ∧ made = n.placed f name page := by
  cases hp : n.page? name with
  | some other =>
    rw [ensure_registered hp] at h
    exact .inl h
  | none =>
    cases hf : f.make name with
    | none =>
      rw [ensure_refused hp hf] at h
      exact .inl h
    | some page =>
      rw [ensure_made hp hf] at h
      rcases getElem?_concat h with old | ⟨new, same⟩
      · exact .inl old
      · exact .inr ⟨new, rfl, page, rfl, same⟩

theorem rebuilt_grows (n : Navigator P) (f : Factory P) : Grows (n.Made f) n (n.rebuilt f) := by
  rcases n.rebuilt_cases f with ⟨-, -, views⟩ | ⟨page, hf, -, views⟩
  · exact grows_of_same views
  · exact ⟨[n.placed f n.root page], views, by simpa using ⟨n.root, page, hf, rfl⟩⟩

/-- Every page that an operation adds comes from the factory of that operation. -/
theorem StockStep.grows (step : StockStep n m op) :
    Grows (fun made => ∃ f, op.factory? = some f ∧ n.Made f made) n m := by
  cases step with
  | recorded page position _ put => exact grows_of_same (put ▸ rfl)
  | kept _ _ same => exact grows_of_same same.views
  | ensured f name asks _ same =>
    refine Grows.trans ?_ (grows_of_same same.views)
    exact (ensure_grows n f name).mono fun made hm => ⟨f, asks, hm⟩
  | rebuilt f wish same =>
    subst wish
    have both : Grows (n.Made f) n ((n.rebuilt f).ensure f n.current).1 :=
      (rebuilt_grows n f).trans ((ensure_grows (n.rebuilt f) f n.current).mono
        fun made hm => hm.of_positions (rebuilt_positions n f))
    refine Grows.trans ?_ (grows_of_same same.views)
    exact both.mono fun made hm => ⟨f, rfl, hm⟩

/-- A page that is registered was so before, has been made just now, or is a root page that could
not be made anew. -/
theorem StockStep.page?_cases (step : StockStep n m op) (h : m.page? key = some view) :
    (op.isReload = false ∧ n.page? key = some view) ∨
    (n.views.length ≤ view ∧ ∃ f page, op.factory? = some f ∧ f.make key = some page) ∨
    (∃ f, op = .reload f ∧ f.make n.root = none ∧ key = n.root ∧ view = n.rootView) := by
  have same : ∀ {k : Navigator P}, m.pages = k.pages → k.page? key = some view := by
    intro k hp
    rw [page?, ← hp]
    exact h
  cases step with
  | recorded page position wish put => exact .inl ⟨wish ▸ rfl, same (put ▸ rfl)⟩
  | kept _ still stock => exact .inl ⟨still, same stock.pages⟩
  | ensured f name asks still stock =>
    rcases ensure_page?_cases (same stock.pages) with there | ⟨new, -, -, page, hf⟩
    · exact .inl ⟨still, there⟩
    · exact .inr (.inl ⟨Nat.le_of_eq new.symm, f, page, asks, hf⟩)
  | rebuilt f wish stock =>
    rcases ensure_page?_cases (same stock.pages) with root | ⟨new, -, -, page, hf⟩
    · obtain ⟨rfl, ⟨new, page, hf⟩ | ⟨old, hf⟩⟩ := rebuilt_page?_cases root
      · exact .inr (.inl ⟨Nat.le_of_eq new.symm, f, page, wish ▸ rfl, hf⟩)
      · exact .inr (.inr ⟨f, wish, hf, rfl, old⟩)
    · exact .inr (.inl ⟨new ▸ (rebuilt_grows n f).le, f, page, wish ▸ rfl, hf⟩)

theorem Operation.grows (h : op.Yields Q) (n : Navigator P) : Grows Q n (op.apply n) := by
  refine (op.stock_step n).grows.mono ?_
  rintro made ⟨f, asks, hm⟩
  exact hm.yields (h.factory asks)

end ClusterDashboard.Navigator
