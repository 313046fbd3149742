import ClusterDashboard.Proofs.Kind.Catalog
import ClusterDashboard.Proofs.Settings.InForce
import ClusterDashboard.Proofs.Sorting
import ClusterDashboard.Proofs.Text.Utf8
import ClusterDashboard.Proofs.Text.Trimming
/-!
# What a word means

A word that reads like an alias means the kind that the alias is for. Of the aliases that read alike
the one whose bytes come last counts, whatever their order in the file, and one that is for no kind
is as if it were not there. Any other word means the built-in kind that goes by it.
-/
namespace ClusterDashboard

namespace Keyed

variable {κ α : Type} [DecidableEq κ]

theorem nodup_put {m : Keyed κ α} (h : m.keys.Nodup) (key : κ) (value : α) :
    (m.put key value).keys.Nodup := by
  refine List.nodup_cons.mpr ⟨?_, h.sublist (List.filter_sublist.map _)⟩
  simp [erase]

theorem nodup_ofList (entries : List (κ × α)) : (ofList entries).keys.Nodup := by
  induction entries using List.reverseRecOn with
  | nil => exact List.nodup_nil
  | append_singleton entries e ih =>
    rw [ofList, List.foldl_append]
    exact nodup_put ih e.1 e.2

end Keyed

namespace ConfigFile

open Yaml (Node)

variable {file next : ConfigFile} {n : Node}

/-- No alias stands in the file twice. -/
def AliasesOnce (file : ConfigFile) : Prop := file.aliases.keys.Nodup

theorem aliasesOnce_empty : AliasesOnce {} := List.nodup_nil

theorem textMap?_nodup {aliases : Keyed String String} (read : textMap? n = some aliases) :
    aliases.keys.Nodup := by
  rw [textMap?.eq_def] at read
  split at read
  · obtain ⟨pairs, -, made⟩ := Option.bind_eq_some_iff.mp read
    obtain rfl := Option.some.inj made
    exact Keyed.nodup_ofList pairs
  · split at read <;> cases read
    exact List.nodup_nil

theorem AliasesOnce.set (h : AliasesOnce file) {field : Field}
    (made : file.set field n = some next) : AliasesOnce next := by
  cases field with
  | aliases =>
    obtain ⟨aliases, read, made⟩ := Option.bind_eq_some_iff.mp made
    obtain rfl := Option.some.inj made
    exact textMap?_nodup read
  | _ =>
    obtain ⟨_, -, made⟩ := Option.bind_eq_some_iff.mp made
    obtain rfl := Option.some.inj made
    exact h

theorem AliasesOnce.ofPairs {seen : List Field} {pairs : List (Node × Node)} (h : AliasesOnce file)
    (made : file.ofPairs seen pairs = some next) : AliasesOnce next := by
  induction pairs generalizing file seen with
  | nil => exact Option.some.inj made ▸ h
  | cons pair pairs ih =>
    obtain ⟨name, -, made⟩ := Option.bind_eq_some_iff.mp made
    split at made
    · exact ih h made
    · split at made
      · cases made
      · obtain ⟨changed, set, made⟩ := Option.bind_eq_some_iff.mp made
        exact ih (h.set set) made

theorem aliasesOnce_of_parsed {text : String} (parsed : parse? text = some file) :
    AliasesOnce file := by
  rw [parse?] at parsed
  split at parsed
  · exact Option.some.inj parsed ▸ aliasesOnce_empty
  · obtain ⟨documents, -, parsed⟩ := Option.bind_eq_some_iff.mp parsed
    split at parsed
    · exact Option.some.inj parsed ▸ aliasesOnce_empty
    · rw [ofNode?.eq_def] at parsed
      split at parsed
      · exact aliasesOnce_empty.ofPairs parsed
      · split at parsed <;> cases parsed
        exact aliasesOnce_empty
    · cases parsed

end ConfigFile

namespace Settings

open BuiltinKind (NamedBy)

variable {file : ConfigFile} {settings : Settings} {aliases : Keyed String String} {word : String}
  {entry other : String × String} {kind found : BuiltinKind}

/-- The alias reads like the word, and what it is for names the kind. -/
structure Offers (word : String) (entry : String × String) (kind : BuiltinKind) : Prop where
  alike : Text.folded entry.1 = Text.folded word
  named : kind.NamedBy entry.2

/-- Of all aliases that read like the word and are for some kind, the bytes of this one come
last. -/
structure Decides (aliases : Keyed String String) (word : String) (entry : String × String)
    (kind : BuiltinKind) : Prop where
  there : entry ∈ aliases
  offers : Offers word entry kind
  last : ∀ other ∈ aliases, (∃ kind, Offers word other kind) →
    Utf8.encode other.1 ≤ Utf8.encode entry.1

theorem Decides.unique (once : aliases.keys.Nodup) (h : Decides aliases word entry kind)
    (k : Decides aliases word other found) : kind = found := by
  have same : entry.1 = other.1 := by
    have before := Utf8.encode_le_iff.mp (k.last entry h.there ⟨kind, h.offers⟩)
    have after := Utf8.encode_le_iff.mp (h.last other k.there ⟨found, k.offers⟩)
    exact le_antisymm before after
  obtain rfl := List.inj_on_of_nodup_map once h.there k.there same
  exact h.offers.named.unique k.offers.named

/-- What is kept of an alias: the form that words are compared in, and the kind. -/
def usable? (entry : String × String) : Option (String × BuiltinKind) :=
  (BuiltinKind.ofWord? entry.2).map fun kind => (Text.folded entry.1, kind)

theorem usable?_eq_some_iff :
    usable? entry = some (Text.folded word, kind) ↔ Offers word entry kind := by
  simp only [usable?, Option.map_eq_some_iff, Prod.mk.injEq, BuiltinKind.ofWord?_eq_some_iff]
  constructor
  · rintro ⟨_, named, alike, rfl⟩
    exact ⟨alike, named⟩
  · rintro ⟨alike, named⟩
    exact ⟨kind, named, alike, rfl⟩

theorem sortedAliases_ordered (aliases : Keyed String String) :
    (sortedAliases aliases).Pairwise fun a b => a.1 ≤ b.1 :=
  ordered_mergeSort (·.1) aliases

theorem mem_sortedAliases : entry ∈ sortedAliases aliases ↔ entry ∈ aliases :=
  List.mem_mergeSort

/-- An entry is found under a word if it is of use for it. -/
theorem any_usable?_iff :
    ((usable? entry).any fun e => decide (e.1 = Text.folded word)) = true ↔
      ∃ kind, Offers word entry kind := by
  simp only [Option.any_eq_true, decide_eq_true_eq, Prod.exists, ← usable?_eq_some_iff]
  constructor
  · rintro ⟨_, kind, used, rfl⟩
    exact ⟨kind, used⟩
  · rintro ⟨kind, used⟩
    exact ⟨_, kind, used, rfl⟩

/-- Looking a word up is a search through the sorted aliases, from their end. -/
theorem aliasTable_get? (aliases : Keyed String String) (word : String) :
    (aliasTable aliases).get? (Text.folded word) =
      ((sortedAliases aliases).reverse.find? fun entry =>
        (usable? entry).any fun e => decide (e.1 = Text.folded word)).bind fun entry =>
          (usable? entry).map (·.2) := by
  have table : aliasTable aliases = Keyed.ofList ((sortedAliases aliases).filterMap usable?) := rfl
  rw [table, Keyed.get?_ofList, ← List.filterMap_reverse, Keyed.get?, List.find?_filterMap,
    Option.map_bind]
  rfl

theorem decides_of_get? (h : (aliasTable aliases).get? (Text.folded word) = some kind) :
    ∃ entry, Decides aliases word entry kind := by
  rw [aliasTable_get?] at h
  obtain ⟨entry, first, used⟩ := Option.bind_eq_some_iff.mp h
  obtain ⟨alike, later, earlier, split, passed⟩ := List.find?_eq_some_iff_append.mp first
  obtain ⟨found, offers⟩ := any_usable?_iff.mp alike
  obtain rfl : found = kind := by simpa [usable?_eq_some_iff.mpr offers] using used
  have ordered : (later ++ entry :: earlier).Pairwise fun a b => b.1 ≤ a.1 :=
    split ▸ List.pairwise_reverse.mpr (sortedAliases_ordered aliases)
  have member {other : String × String} :
      other ∈ aliases ↔ other ∈ later ∨ other = entry ∨ other ∈ earlier := by
    rw [← mem_sortedAliases, ← List.mem_reverse, split, List.mem_append, List.mem_cons]
  refine ⟨entry, member.mpr (.inr (.inl rfl)), offers, fun other there some_kind => ?_⟩
  rw [Utf8.encode_le_iff]
  rcases member.mp there with behind | rfl | before
  · have unused := passed other behind
    rw [any_usable?_iff.mpr some_kind] at unused
    cases unused
  · exact le_rfl
  · exact (List.pairwise_cons.mp (List.pairwise_append.mp ordered).2.1).1 other before

/-- An alias for a kind has a kind found in its place, if not its own. -/
theorem exists_get? (there : entry ∈ aliases) (offers : Offers word entry kind) :
    ∃ found, (aliasTable aliases).get? (Text.folded word) = some found := by
  rw [aliasTable_get?]
  cases first : (sortedAliases aliases).reverse.find? fun entry =>
      (usable? entry).any fun e => decide (e.1 = Text.folded word) with
  | none =>
    have unused := List.find?_eq_none.mp first entry
      (List.mem_reverse.mpr (mem_sortedAliases.mpr there))
    exact absurd (any_usable?_iff.mpr ⟨kind, offers⟩) unused
  | some other =>
    obtain ⟨found, chosen⟩ := any_usable?_iff.mp (List.find?_eq_some_iff_append.mp first).1
    exact ⟨found, by rw [Option.bind_some, usable?_eq_some_iff.mpr chosen]; rfl⟩

/-- What words mean under an alias map. -/
structure Resolves (aliases : Keyed String String) (resolve : String → Option BuiltinKind) :
    Prop where
  aliased : ∀ word entry kind, Decides aliases word entry kind → resolve word = some kind
  decided : ∀ word, (∃ entry ∈ aliases, ∃ kind, Offers word entry kind) →
    ∃ entry kind, Decides aliases word entry kind
  builtin : ∀ word, (¬ ∃ entry ∈ aliases, ∃ kind, Offers word entry kind) →
    resolve word = BuiltinKind.ofWord? word

theorem ofWord?_folded (word : String) :
    BuiltinKind.ofWord? (Text.folded word) = BuiltinKind.ofWord? word := by
  rw [BuiltinKind.ofWord?, Text.folded_folded, BuiltinKind.ofWord?]

theorem kindOf?_resolves (once : aliases.keys.Nodup)
    (table : settings.aliases = aliasTable aliases) : Resolves aliases settings.kindOf? where
  aliased word entry kind decides := by
    obtain ⟨found, there⟩ := exists_get? decides.there decides.offers
    obtain ⟨other, chosen⟩ := decides_of_get? there
    rw [kindOf?, table, there, decides.unique once chosen]
  decided word := by
    rintro ⟨entry, there, kind, offers⟩
    obtain ⟨found, known⟩ := exists_get? there offers
    obtain ⟨other, chosen⟩ := decides_of_get? known
    exact ⟨other, found, chosen⟩
  builtin word unaliased := by
    have absent : (aliasTable aliases).get? (Text.folded word) = none := by
      refine Option.eq_none_iff_forall_ne_some.mpr fun kind there => unaliased ?_
      obtain ⟨entry, decides⟩ := decides_of_get? there
      exact ⟨entry, decides.there, kind, decides.offers⟩
    rw [kindOf?, table, absent, ofWord?_folded]

/-- The aliases that are for a kind. -/
def known (aliases : Keyed String String) : Keyed String String :=
  aliases.filter fun entry => (BuiltinKind.ofWord? entry.2).isSome

theorem Offers.mem_known_iff (h : Offers word entry kind) :
    entry ∈ known aliases ↔ entry ∈ aliases := by
  have named : BuiltinKind.ofWord? entry.2 = some kind :=
    BuiltinKind.ofWord?_eq_some_iff.mpr h.named
  rw [known, List.mem_filter, named]
  exact and_iff_left rfl

theorem exists_known_iff : (∃ entry ∈ known aliases, ∃ kind, Offers word entry kind) ↔
    ∃ entry ∈ aliases, ∃ kind, Offers word entry kind := by
  constructor
  · rintro ⟨entry, there, kind, offers⟩
    exact ⟨entry, offers.mem_known_iff.mp there, kind, offers⟩
  · rintro ⟨entry, there, kind, offers⟩
    exact ⟨entry, offers.mem_known_iff.mpr there, kind, offers⟩

theorem decides_known_iff : Decides (known aliases) word entry kind ↔
    Decides aliases word entry kind := by
  constructor
  · rintro ⟨there, offers, last⟩
    refine ⟨offers.mem_known_iff.mp there, offers, fun other member some_kind => ?_⟩
    obtain ⟨found, others⟩ := some_kind
    exact last other (others.mem_known_iff.mpr member) ⟨found, others⟩
  · rintro ⟨there, offers, last⟩
    refine ⟨offers.mem_known_iff.mpr there, offers, fun other member some_kind => ?_⟩
    exact last other (List.mem_filter.mp member).1 some_kind

theorem Resolves.known {resolve : String → Option BuiltinKind} (h : Resolves aliases resolve) :
    Resolves (known aliases) resolve where
  aliased word entry kind decides := h.aliased word entry kind (decides_known_iff.mp decides)
  decided word offered := by
    obtain ⟨entry, kind, decides⟩ := h.decided word (exists_known_iff.mp offered)
    exact ⟨entry, kind, decides_known_iff.mpr decides⟩
  builtin word unaliased := h.builtin word (mt exists_known_iff.mpr unaliased)

/-- Neither the blanks around a word nor its case count, and neither does an alias that is for no
kind. -/
structure Understands (aliases : Keyed String String) (resolve : String → Option BuiltinKind) :
    Prop where
  resolves : Resolves aliases resolve
  folded : ∀ word other, Text.folded other = Text.folded word → resolve other = resolve word
  unknown : Resolves (known aliases) resolve

theorem kindOf?_understands (once : aliases.keys.Nodup)
    (table : settings.aliases = aliasTable aliases) :
    Understands aliases settings.kindOf? where
  resolves := kindOf?_resolves once table
  folded word other same := by rw [kindOf?, same, kindOf?]
  unknown := (kindOf?_resolves once table).known

theorem ofConfig_aliases (made : ofConfig file = .ok settings) :
    settings.aliases = aliasTable file.aliases := by
  rw [ofConfig] at made
  cases rooted : root file.rootPage with
  | error problem => rw [rooted] at made; cases made
  | ok kind =>
    rw [rooted] at made
    obtain rfl := Except.ok.inj made
    rfl

theorem Found.aliasesOnce {around : Surroundings} {line : CommandLine}
    (found : Found around line file) : file.AliasesOnce := by
  rw [Found] at found
  split at found
  · exact found ▸ ConfigFile.aliasesOnce_empty
  · obtain ⟨text, -, parsed⟩ := found
    exact ConfigFile.aliasesOnce_of_parsed parsed

theorem load_aliases {around : Surroundings} {line : CommandLine} (found : Found around line file)
    (loaded : load around line = .ok settings) : settings.aliases = aliasTable file.aliases := by
  rcases load_of_found found with ⟨_, failure, -, failed⟩ | ⟨own, source, made, same⟩
  · cases failed.symm.trans loaded
  · obtain rfl := Except.ok.inj (same.symm.trans loaded)
    change own.aliases = _
    exact ofConfig_aliases made

/-- Whatever aliases a file holds, a word means the kind of the alias that it reads like, of several
the one whose bytes come last, and else the built-in kind that it names, in the settings made from
the file, from its text, and as the program starts with it. -/
theorem words_understood (file : ConfigFile) :
    (∀ settings, file.AliasesOnce → ofConfig file = .ok settings →
      Understands file.aliases settings.kindOf?) ∧
    (∀ text settings, ConfigFile.parse? text = some file → ofYaml text = .ok settings →
      Understands file.aliases settings.kindOf?) ∧
    ∀ around line settings, Found around line file → load around line = .ok settings →
      Understands file.aliases settings.kindOf? := by
  refine ⟨fun settings once made => ?_, fun text settings parsed made => ?_,
    fun around line settings found loaded => ?_⟩
  · exact kindOf?_understands once (ofConfig_aliases made)
  · have once := ConfigFile.aliasesOnce_of_parsed parsed
    rw [ofYaml_of_parsed parsed] at made
    exact kindOf?_understands once (ofConfig_aliases made)
  · exact kindOf?_understands found.aliasesOnce (load_aliases found loaded)

/-- Three aliases read alike: the last in the file is not the last in order, and the last in order
is for no kind. One alias goes before a built-in word, another would but is for no kind. -/
theorem words_understood_of_alike_aliases :
    let text := "aliases:\n  web: nothing\n  Web: ingresses\n  ' WEB': pods\n  po: nodes\n" ++
      "  SVC: nowhere\n"
    let files : Files := { home := "/", entries := [(["axe.yaml"], .file text.toUTF8.toList)] }
    ∃ settings, load ⟨files, []⟩ {} = .ok settings ∧ settings.kindOf? "\tweB " = some .ingresses ∧
      settings.kindOf? "PO" = some .nodes ∧ settings.kindOf? "svc" = some .services := by
  intro text files
  let file : ConfigFile :=
    { aliases := [("SVC", "nowhere"), ("po", "nodes"), (" WEB", "pods"), ("Web", "ingresses"),
        ("web", "nothing")] }
  have found : Found ⟨files, []⟩ {} file := by
    have place : discover ⟨files, []⟩ = some "axe.yaml" := by decide +kernel
    have read : files.readText "axe.yaml" = .ok text := by decide +kernel
    rw [Found, Option.none_or, place]
    exact ⟨text, read, by decide +kernel⟩
  have known : ¬ UnknownRoot (fileUnder {} file) := fun ⟨_, given, _⟩ => nomatch given
  obtain ⟨settings, loaded, -⟩ := (load_obeys found).followed known
  obtain ⟨-, -, started⟩ := words_understood file
  obtain ⟨⟨aliased, -, builtin⟩, -, -⟩ := started ⟨files, []⟩ {} settings found loaded
  refine ⟨settings, loaded, ?_, ?_, ?_⟩
  · refine aliased _ ("Web", "ingresses") _ ⟨by decide, ⟨by decide, by decide⟩, ?_⟩
    simp only [← any_usable?_iff]
    decide +kernel
  · refine aliased _ ("po", "nodes") _ ⟨by decide, ⟨by decide, by decide⟩, ?_⟩
    simp only [← any_usable?_iff]
    decide +kernel
  · rw [builtin]
    · decide +kernel
    · simp only [← any_usable?_iff]
      decide +kernel

end Settings
end ClusterDashboard
