import ClusterDashboard.Settings.Basic
import Mathlib.Data.List.Induction
/-!
# The settings in force

A configuration file is refused for one reason only, a root page that no built-in kind goes by.
Otherwise its pages are the kinds that it names, each once and by the first word for it, and the
root page is among them. A word that names no kind counts for nothing.
-/
namespace ClusterDashboard

namespace BuiltinKind

variable {kind other : BuiltinKind} {word : String}

/-- Neither case nor the blanks around a word count. -/
def NamedBy (kind : BuiltinKind) (word : String) : Prop := Text.folded word ∈ kind.words

instance (kind : BuiltinKind) (word : String) : Decidable (kind.NamedBy word) :=
  inferInstanceAs (Decidable (_ ∈ _))

theorem words_disjoint : ∀ a ∈ all, ∀ b ∈ all, ∀ word ∈ a.words, word ∈ b.words → a = b := by
  decide +kernel

theorem NamedBy.unique (h : kind.NamedBy word) (k : other.NamedBy word) : kind = other :=
  words_disjoint kind kind.mem_all other other.mem_all _ h k

theorem ofWord?_eq_some_iff : ofWord? word = some kind ↔ kind.NamedBy word := by
  have first {found : BuiltinKind} (h : ofWord? word = some found) : found.NamedBy word := by
    simpa [NamedBy] using List.find?_some h
  constructor
  · exact first
  · intro named
    cases found : ofWord? word with
    | none =>
      have unnamed := List.find?_eq_none.mp found kind kind.mem_all
      exact absurd (List.contains_iff_mem.mpr named) unnamed
    | some other => rw [(first found).unique named]

theorem ofWord?_eq_none_iff : ofWord? word = none ↔ ∀ kind : BuiltinKind, ¬ kind.NamedBy word := by
  simp only [Option.eq_none_iff_forall_ne_some, Ne, ofWord?_eq_some_iff]

end BuiltinKind

namespace Settings

open BuiltinKind (NamedBy)

variable {file : ConfigFile} {settings : Settings} {words : List String} {word : String}
  {kinds : List BuiltinKind} {kind : BuiltinKind}

section Pages

/-- The place of the first word for the kind. -/
def firstWord (words : List String) (kind : BuiltinKind) : Nat :=
  words.findIdx fun word => decide (kind.NamedBy word)

/-- The kinds that the words name, in the order of the first words for them. -/
structure Lists (words : List String) (kinds : List BuiltinKind) : Prop where
  listed : ∀ kind, kind ∈ kinds ↔ ∃ word ∈ words, kind.NamedBy word
  ordered : kinds.Pairwise fun a b => firstWord words a < firstWord words b

theorem firstWord_lt_iff :
    firstWord words kind < words.length ↔ ∃ word ∈ words, kind.NamedBy word := by
  simp only [firstWord, List.findIdx_lt_length, decide_eq_true_eq]

theorem firstWord_append (named : ∃ word ∈ words, kind.NamedBy word) (more : List String) :
    firstWord (words ++ more) kind = firstWord words kind := by
  rw [firstWord, List.findIdx_append]
  exact if_pos (firstWord_lt_iff.mpr named)

theorem le_firstWord_append (unnamed : ¬ ∃ word ∈ words, kind.NamedBy word) (more : List String) :
    words.length ≤ firstWord (words ++ more) kind := by
  have beyond : ¬ firstWord words kind < words.length := mt firstWord_lt_iff.mp unnamed
  rw [firstWord] at beyond ⊢
  rw [List.findIdx_append, if_neg beyond]
  exact Nat.le_add_left ..

namespace Lists

theorem nodup (h : Lists words kinds) : kinds.Nodup :=
  h.ordered.imp fun before same => Nat.ne_of_lt before (congrArg (firstWord words) same)

theorem ordered_append (h : Lists words kinds) (more : List String) :
    kinds.Pairwise fun a b => firstWord (words ++ more) a < firstWord (words ++ more) b := by
  refine h.ordered.imp_of_mem fun {a b} ha hb before => ?_
  rw [firstWord_append ((h.listed a).mp ha), firstWord_append ((h.listed b).mp hb)]
  exact before

/-- A word for a kind that is listed already, or for none, adds nothing. -/
theorem pass (h : Lists words kinds)
    (known : ∀ kind : BuiltinKind, kind.NamedBy word → kind ∈ kinds) :
    Lists (words ++ [word]) kinds where
  listed kind := by
    simp only [h.listed, List.mem_append, List.mem_singleton] at known ⊢
    constructor
    · rintro ⟨w, hw, named⟩
      exact ⟨w, .inl hw, named⟩
    · rintro ⟨w, hw | rfl, named⟩
      · exact ⟨w, hw, named⟩
      · exact known kind named
  ordered := h.ordered_append [word]

/-- The first word for a kind puts it at the end. -/
theorem add (h : Lists words kinds) (named : kind.NamedBy word) (new : kind ∉ kinds) :
    Lists (words ++ [word]) (kinds ++ [kind]) where
  listed other := by
    simp only [h.listed, List.mem_append, List.mem_singleton]
    constructor
    · rintro (⟨w, hw, earlier⟩ | rfl)
      · exact ⟨w, .inl hw, earlier⟩
      · exact ⟨word, .inr rfl, named⟩
    · rintro ⟨w, hw | rfl, last⟩
      · exact .inl ⟨w, hw, last⟩
      · exact .inr (last.unique named)
  ordered := by
    refine List.pairwise_append.mpr ⟨h.ordered_append [word], List.pairwise_singleton .., ?_⟩
    intro other there last hl
    rw [List.mem_singleton.mp hl]
    have earlier := (h.listed other).mp there
    calc firstWord (words ++ [word]) other
      _ = firstWord words other := firstWord_append earlier _
      _ < words.length := firstWord_lt_iff.mpr earlier
      _ ≤ firstWord (words ++ [word]) kind := le_firstWord_append (mt (h.listed kind).mpr new) _

end Lists

theorem knownPages_append (words : List String) (word : String) :
    knownPages (words ++ [word]) = match BuiltinKind.ofWord? word with
      | none => knownPages words
      | some kind =>
        if kind ∈ knownPages words then knownPages words else knownPages words ++ [kind] := by
  rw [knownPages, List.filterMap_append]
  cases named : BuiltinKind.ofWord? word with
  | none => simp [named, knownPages]
  | some kind =>
    simp only [named, knownPages, List.filterMap_cons, List.filterMap_nil, List.foldl_append]
    exact if_congr Iff.rfl rfl rfl

theorem knownPages_lists (words : List String) : Lists words (knownPages words) := by
  induction words using List.reverseRecOn with
  | nil => exact ⟨by simp [knownPages], .nil⟩
  | append_singleton words word ih =>
    rw [knownPages_append]
    cases named : BuiltinKind.ofWord? word with
    | none =>
      exact ih.pass fun kind names => absurd names (BuiltinKind.ofWord?_eq_none_iff.mp named kind)
    | some kind =>
      have names := BuiltinKind.ofWord?_eq_some_iff.mp named
      dsimp only
      split
      · next there => exact ih.pass fun other again => again.unique names ▸ there
      · next new => exact ih.add names new

/-- What is offered when the words name the given kinds. -/
def offered (known : List BuiltinKind) : List BuiltinKind :=
  if known = [] then BuiltinKind.all else known

theorem offered_ne_nil (known : List BuiltinKind) : offered known ≠ [] := by
  rw [offered]
  split
  · decide
  · assumption

theorem offered_nodup (h : Lists words kinds) : (offered kinds).Nodup := by
  rw [offered]
  split
  · decide
  · exact h.nodup

/-- The root page comes in front where it is missing, and only there. -/
structure Pages (root : BuiltinKind) (words : List String) (pages : List BuiltinKind) : Prop where
  nonempty : pages ≠ []
  nodup : pages.Nodup
  root_mem : root ∈ pages
  named : ∃ known, Lists words known ∧
    (root ∈ offered known → pages = offered known) ∧
    (root ∉ offered known → pages = root :: offered known)

theorem pagesFor_pages (root : BuiltinKind) (words : List String) :
    Pages root words (pagesFor root words) := by
  have lists := knownPages_lists words
  have kinds : pagesFor root words = if root ∈ offered (knownPages words)
      then offered (knownPages words) else root :: offered (knownPages words) := by
    simp only [pagesFor, offered, List.isEmpty_iff]
    exact if_congr Iff.rfl rfl rfl
  by_cases there : root ∈ offered (knownPages words)
  · rw [kinds, if_pos there]
    exact ⟨offered_ne_nil _, offered_nodup lists, there, _, lists, fun _ => rfl,
      fun missing => absurd there missing⟩
  · rw [kinds, if_neg there]
    exact ⟨List.cons_ne_nil _ _, List.nodup_cons.mpr ⟨there, offered_nodup lists⟩,
      List.mem_cons_self, _, lists, fun present => absurd present there, fun _ => rfl⟩

example :
    pagesFor .nodes ["svc", "bogus", " Pods", "po", "service"] = [.nodes, .services, .pods] := by
  decide +kernel

end Pages

/-- The settings are what a file asks for. -/
structure Follows (file : ConfigFile) (settings : Settings) : Prop where
  root : ∀ word, file.rootPage = some word → settings.rootPage.NamedBy word
  usualRoot : file.rootPage = none → settings.rootPage = .pods
  pages : Pages settings.rootPage file.pages settings.pages
  refresh : ∀ ms, file.refreshMs = some ms → settings.refreshMs = max 500 ms
  usualRefresh : file.refreshMs = none → settings.refreshMs = 1500

/-- The root page goes by a word that means no built-in kind. -/
def UnknownRoot (file : ConfigFile) : Prop :=
  ∃ word, file.rootPage = some word ∧ ∀ kind : BuiltinKind, ¬ kind.NamedBy word

/-- A file is refused for its root page alone, and obeyed in all else. -/
structure Obeys (file : ConfigFile) (outcome : Except Problem Settings) : Prop where
  refused : (∃ problem, outcome = .error problem) ↔ UnknownRoot file
  followed : ¬ UnknownRoot file → ∃ settings, outcome = .ok settings ∧ Follows file settings

theorem interval_eq (ms : Nat) : interval ms = max 500 ms := Nat.max_comm ..

theorem root_cases (word : Option String) :
    (∃ unknown, word = some unknown ∧ (∀ kind : BuiltinKind, ¬ kind.NamedBy unknown) ∧
      root word = .error (.unknownRoot unknown)) ∨
    (∃ kind : BuiltinKind, (∀ w, word = some w → kind.NamedBy w) ∧
      (word = none → kind = .pods) ∧ root word = .ok kind) := by
  cases word with
  | none => exact .inr ⟨.pods, nofun, fun _ => rfl, rfl⟩
  | some word =>
    cases named : BuiltinKind.ofWord? word with
    | none => exact .inl ⟨word, rfl, BuiltinKind.ofWord?_eq_none_iff.mp named, by rw [root, named]⟩
    | some kind =>
      refine .inr ⟨kind, ?_, nofun, by rw [root, named]⟩
      rintro w ⟨⟩
      exact BuiltinKind.ofWord?_eq_some_iff.mp named

theorem ofConfig_obeys (file : ConfigFile) : Obeys file (ofConfig file) := by
  rcases root_cases file.rootPage with ⟨word, given, unknown, refused⟩ | ⟨kind, named, usual, found⟩
  · have unknown : UnknownRoot file := ⟨word, given, unknown⟩
    have failed : ofConfig file = .error (.unknownRoot word) := by rw [ofConfig, refused]; rfl
    exact ⟨iff_of_true ⟨_, failed⟩ unknown, fun known => absurd unknown known⟩
  · have known : ¬ UnknownRoot file := fun ⟨word, given, unknown⟩ => unknown kind (named word given)
    have made : ofConfig file = .ok {
        refreshMs := (file.refreshMs.map interval).getD 1500
        statusDelayMs := file.statusDelayMs.getD 1000
        rootPage := kind
        pages := pagesFor kind file.pages
        aliases := aliasTable file.aliases } := by
      rw [ofConfig, found]
      rfl
    refine ⟨iff_of_false ?_ known, fun _ => ⟨_, made, named, usual, ?_, ?_, ?_⟩⟩
    · rintro ⟨problem, failed⟩
      cases made.symm.trans failed
    · exact pagesFor_pages kind file.pages
    · intro ms given
      simp [given, interval_eq]
    · intro absent
      simp [absent]

theorem ofConfig_empty : ofConfig {} = .ok {} := by
  have aliases : aliasTable [] = [] := by simp [aliasTable, sortedAliases, Keyed.ofList]
  rw [ofConfig, aliases]
  rfl

theorem ofYaml_of_parsed {text : String} (parsed : ConfigFile.parse? text = some file) :
    ofYaml text = ofConfig file := by
  rw [ofYaml, parsed]

section Loading

variable {around : Surroundings} {line : CommandLine}

/-- The file that is found when the program starts; it says nothing where there is none. -/
def Found (around : Surroundings) (line : CommandLine) (file : ConfigFile) : Prop :=
  match line.config.or (discover around) with
  | none => file = {}
  | some path => ∃ text, around.files.readText path = .ok text ∧ ConfigFile.parse? text = some file

/-- The file, had the interval of the command line been written in it. -/
def fileUnder (line : CommandLine) (file : ConfigFile) : ConfigFile :=
  { file with refreshMs := line.refreshMs.or file.refreshMs }

/-- The settings, with the interval that the command line asks for. -/
def overruled (line : CommandLine) (source : Option String) (settings : Settings) : Settings :=
  { settings with source, refreshMs := (line.refreshMs.map interval).getD settings.refreshMs }

theorem Follows.overruled (h : Follows file settings) (line : CommandLine)
    (source : Option String) : Follows (fileUnder line file) (settings.overruled line source) where
  root := h.root
  usualRoot := h.usualRoot
  pages := h.pages
  refresh ms given := by
    cases asked : line.refreshMs with
    | none =>
      have written : file.refreshMs = some ms := by simpa [fileUnder, asked] using given
      simpa [Settings.overruled, asked] using h.refresh ms written
    | some own =>
      obtain rfl : own = ms := by simpa [fileUnder, asked] using given
      simpa [Settings.overruled, asked] using interval_eq own
  usualRefresh absent := by
    obtain ⟨unasked, unwritten⟩ := Option.or_eq_none_iff.mp absent
    simpa [Settings.overruled, unasked] using h.usualRefresh unwritten

/-- What is read from the file that is found decides. -/
theorem load_of_found (found : Found around line file) :
    (∃ problem failure, ofConfig file = .error problem ∧ load around line = .error failure) ∨
    ∃ settings source, ofConfig file = .ok settings ∧
      load around line = .ok (settings.overruled line source) := by
  rw [Found] at found
  cases place : line.config.or (discover around) with
  | none =>
    rw [place] at found
    subst found
    refine .inr ⟨{}, none, ofConfig_empty, ?_⟩
    rw [load, place, Settings.overruled]
    cases line.refreshMs <;> rfl
  | some path =>
    rw [place] at found
    obtain ⟨text, read, parsed⟩ := found
    have same : ofYaml text = ofConfig file := ofYaml_of_parsed parsed
    cases made : ofConfig file with
    | error problem =>
      have failed : ofFile around.files path = .error (.inFile path problem) := by
        simp only [ofFile, read, same, made]
      refine .inl ⟨problem, .inFile path problem, rfl, ?_⟩
      simp only [load, place, failed]
      rfl
    | ok settings =>
      have sourced : ofFile around.files path = .ok { settings with source := some path } := by
        simp only [ofFile, read, same, made]
      refine .inr ⟨settings, some path, rfl, ?_⟩
      simp only [load, place, sourced, Settings.overruled]
      cases line.refreshMs <;> rfl

theorem load_obeys (found : Found around line file) :
    Obeys (fileUnder line file) (load around line) := by
  have obeyed := ofConfig_obeys file
  rcases load_of_found found with
    ⟨problem, failure, refused, failed⟩ | ⟨settings, source, made, loaded⟩
  · have unknown : UnknownRoot file := obeyed.refused.mp ⟨problem, refused⟩
    exact ⟨iff_of_true ⟨failure, failed⟩ unknown, fun known => absurd unknown known⟩
  · have known : ¬ UnknownRoot file := by
      intro unknown
      obtain ⟨problem, refused⟩ := obeyed.refused.mpr unknown
      cases made.symm.trans refused
    refine ⟨iff_of_false ?_ known, fun _ => ⟨_, loaded, ?_⟩⟩
    · rintro ⟨failure, failed⟩
      cases loaded.symm.trans failed
    · obtain ⟨own, same, follows⟩ := obeyed.followed known
      obtain rfl := Except.ok.inj (made.symm.trans same)
      exact follows.overruled line source

end Loading

/-- A file is refused exactly when its root page is unknown. Otherwise the settings have its pages,
each once and in its order, with the root page among them, and no interval is shorter than half a
second; when the program starts, the interval of the command line counts before that of the file. -/
theorem settings_follow_file (file : ConfigFile) :
    Obeys file (ofConfig file) ∧
    (∀ text, ConfigFile.parse? text = some file → Obeys file (ofYaml text)) ∧
    ∀ around line, Found around line file → Obeys (fileUnder line file) (load around line) :=
  ⟨ofConfig_obeys file, fun _ parsed => ofYaml_of_parsed parsed ▸ ofConfig_obeys file,
    fun _ _ found => load_obeys found⟩

/-- A file that spells its root page in its own way, does not list it, and names one page twice and
one that does not exist; the command line asks for an interval that is too short. -/
theorem settings_follow_file_under_command_line :
    let text := "refresh_ms: 900\nroot: ' Nodes'\npages: [svc, bogus, Pods, po]\n"
    let file : ConfigFile :=
      { refreshMs := some 900, rootPage := some " Nodes", pages := ["svc", "bogus", "Pods", "po"] }
    let files : Files := { home := "/", entries := [(["axe.yaml"], .file text.toUTF8.toList)] }
    ∃ settings, load ⟨files, []⟩ { refreshMs := some 20 } = .ok settings ∧
      Follows (fileUnder { refreshMs := some 20 } file) settings ∧
      settings.rootPage = .nodes ∧ settings.refreshMs = 500 := by
  intro text file files
  have found : Found ⟨files, []⟩ { refreshMs := some 20 } file := by
    have place : discover ⟨files, []⟩ = some "axe.yaml" := by decide +kernel
    have read : files.readText "axe.yaml" = .ok text := by decide +kernel
    rw [Found, Option.none_or, place]
    exact ⟨text, read, by decide +kernel⟩
  have known : ¬ UnknownRoot (fileUnder { refreshMs := some 20 } file) := by
    rintro ⟨word, given, unknown⟩
    cases given
    exact unknown .nodes (by decide)
  obtain ⟨-, -, started⟩ := settings_follow_file file
  obtain ⟨settings, loaded, follows⟩ := (started ⟨files, []⟩ _ found).followed known
  refine ⟨settings, loaded, follows, ?_, follows.refresh 20 rfl⟩
  exact (follows.root " Nodes" rfl).unique (by decide)

end Settings
end ClusterDashboard
