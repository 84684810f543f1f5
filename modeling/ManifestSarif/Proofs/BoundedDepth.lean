import ManifestSarif.Proofs.AcceptedData
import ManifestSarif.Proofs.Entries
import ManifestSarif.Proofs.KnownMembers

/-!
# Entries nest boundedly

A reader is given the number of arrays and objects that may still nest.  An entry takes one for
itself and one for the list of the entries below it, so the entries of a report that is accepted
nest boundedly, and so do the calls that make records of them.

* `Dependency.NestsWithin` bounds the entries below an entry.  `yields_dependency` is the invariant
  of the reader of entries, by induction on the nesting that is left; `yields_reader` is that of
  reports.
* `ReportFormat.Nested` counts the entries below an entry in a value, whichever records are written
  as objects or arrays.  `nested_le` bounds it where the value is accepted.
* `Record.ofDependencyIn?` makes a record with a bounded number of open calls, and
  `ofDependencyIn?_eq` says how many are enough.
* `accepted_entries_nest_boundedly` puts these together.
-/

namespace ManifestSarif

/-! ## Entries below entries -/

/-- Entries each of which is right below the one before. -/
def Dependency.IsDescent : List Dependency → Prop :=
  List.IsChain fun above below => below ∈ above.transitiveList

/-- No more than `n` entries are below the entry, each below the one before. -/
def Dependency.NestsWithin (n : Nat) (dependency : Dependency) : Prop :=
  ∀ chain, IsDescent (dependency :: chain) → chain.length ≤ n

/-- The entries that the sources of the providers list, whether or not these could be asked. -/
def AnalysisReport.listed (report : AnalysisReport) : List Dependency :=
  report.providerList.flatMap fun provider =>
    provider.2.sourceList.flatMap fun source => source.2.dependencies.getD []

/-- How many entries may nest below an entry that a source lists. -/
def Report.nestingLimit (ecosystem : Ecosystem) : Nat :=
  if ecosystem = .docker then 59 else 60

/-- What is below an entry nests less deep. -/
theorem Dependency.NestsWithin.below {n : Nat} {dependency lower : Dependency}
    (h : dependency.NestsWithin n) (hlower : lower ∈ dependency.transitiveList) :
    ∃ m, n = m + 1 ∧ lower.NestsWithin m := by
  have hone := h [lower] (.cons_cons hlower (.singleton _))
  obtain ⟨m, rfl⟩ := Nat.exists_eq_add_of_le' hone
  refine ⟨m, rfl, fun chain hchain => ?_⟩
  have hmore := h (lower :: chain) (.cons_cons hlower hchain)
  exact Nat.le_of_succ_le_succ hmore

/-! ## Calls -/

/-- The record of an entry as `Record.ofDependency?` makes it, with so many calls open at a time;
nothing where this is not enough. -/
def Record.ofDependencyIn? (origin : Origin) : Nat → Dependency → Option (Option Record)
  | 0, _ => none
  | calls + 1, ⟨ref, issues, transitive, recommendation⟩ =>
    match ref.filter fun ref => !ref.isEmpty with
    | none => some none
    | some ref => do
      let transitives ←
        match transitive with
        | none => some none
        | some below => (below.mapM (ofDependencyIn? origin calls)).map some
      return some {
        origin
        ref
        coordinates := PackageRef.coordinates ref
        issues := someIssues? issues
        transitives := transitives.map (·.filterMap id)
        recommendation := recommendedVersion? issues recommendation }

theorem mapM_eq_map {α β : Type} {f : α → Option β} {g : α → β} {items : List α}
    (h : ∀ a ∈ items, f a = some (g a)) : items.mapM f = some (items.map g) := by
  induction items with
  | nil => rfl
  | cons a items ih =>
    obtain ⟨hfirst, hrest⟩ := List.forall_mem_cons.1 h
    rw [List.mapM_cons, hfirst, ih hrest]
    rfl

/-- One call for the entry and one for each that nests below it are enough. -/
theorem Record.ofDependencyIn?_eq {n : Nat} {dependency : Dependency}
    (h : dependency.NestsWithin n) (origin : Origin) :
    ofDependencyIn? origin (n + 1) dependency = some (ofDependency? origin dependency) := by
  induction n using Nat.strongRecOn generalizing dependency with
  | ind n ih =>
    obtain ⟨ref, issues, transitive, recommendation⟩ := dependency
    rw [ofDependencyIn?, ofDependency?]
    cases ref.filter fun ref => !ref.isEmpty with
    | none => rfl
    | some ref =>
      cases transitive with
      | none => rfl
      | some below =>
        have hbelow : ∀ lower ∈ below,
            ofDependencyIn? origin n lower = some (ofDependency? origin lower) := by
          intro lower hlower
          obtain ⟨m, rfl, hnests⟩ := h.below hlower
          exact ih m (Nat.lt_succ_self m) hnests
        have hrecords : (below.map (ofDependency? origin)).filterMap id =
            below.filterMap (ofDependency? origin) := List.filterMap_map
        simp only [mapM_eq_map hbelow, ofTransitive_eq_map, Option.map_some, Option.bind_eq_bind,
          Option.bind_some, hrecords]
        rfl

/-! ## What is read -/

/-- An entry with so many containers around it, and each chain below it, fits in the nesting that is
allowed: each entry of a chain takes a list and an entry. -/
def Dependency.FitsIn (around depth : Nat) (dependency : Dependency) : Prop :=
  ∀ chain, IsDescent (dependency :: chain) → 2 * chain.length + 1 + around ≤ depth

/-- A record in a list or in a map is inside two containers more. -/
theorem Dependency.FitsIn.inside {around depth outer : Nat} {dependency : Dependency}
    (h : dependency.FitsIn around depth) (hdepth : outer = depth + 2) :
    dependency.FitsIn (around + 2) outer := by
  intro chain hchain
  have := h chain hchain
  omega

theorem Dependency.FitsIn.nestsWithin {around depth n : Nat} {dependency : Dependency}
    (h : dependency.FitsIn around depth) (hdepth : depth ≤ 2 * n + 2 + around) :
    dependency.NestsWithin n := by
  intro chain hchain
  have := h chain hchain
  omega

namespace Report

open Json Json.Reader

theorem yields_any {α : Type} (reader : Reader α) : Yields (fun _ => True) reader :=
  fun _ _ _ => trivial

/-- What holds of the items of each list holds of the items that are there. -/
theorem forall_mem_getD {α : Type} {P : α → Prop} {items? : Option (List α)}
    (h : ∀ items, items? = some items → ∀ a ∈ items, P a) : ∀ a ∈ items?.getD [], P a := by
  cases items? with
  | none => simp
  | some items => exact h items rfl

theorem forall_mem_toList {α : Type} {P : String × α → Prop} {m? : Option (KeyMap α)}
    (h : ∀ m, m? = some m → ∀ entry ∈ m.toList, P entry) :
    ∀ entry ∈ (m?.map KeyMap.toList).getD [], P entry := by
  cases m? with
  | none => simp
  | some m => exact h m rfl

theorem yields_dependency (depth : Nat) :
    Yields (Dependency.FitsIn 0 depth) (dependency depth) := by
  induction depth using Nat.strongRecOn with
  | ind depth ih =>
    rw [dependency_eq]
    -- where an entry is read, the entries right below it fit with two containers more
    have hlower : Yields (fun entry : Dependency => ∀ lower ∈ entry.transitiveList,
        lower.FitsIn 2 depth) (record "RawDependency"
          (within (fun below => dependencyFields (within dependency below) below) depth)
          ⟨none, none, none, none⟩) := by
      refine yields_record (by simp [Dependency.transitiveList]) fun below hdepth => ?_
      have htransitive : Yields (fun entries => ∀ lower ∈ entries, lower.FitsIn 2 depth)
          (list (within dependency below)) :=
        yields_list fun deeper hdeeper value lower hread =>
          (ih deeper (by omega) value lower hread).inside (by omega)
      simp only [dependencyFields, List.forall_mem_cons]
      exact ⟨keeps_field (yields_any _) fun _ _ _ hs => hs,
        keeps_field (yields_any _) fun _ _ _ hs => hs,
        keeps_field htransitive.optional fun _ _ hbelow _ => forall_mem_getD hbelow,
        keeps_field (yields_any _) fun _ _ _ hs => hs, by simp⟩
    intro value entry hread chain hchain
    cases depth with
    | zero => cases value <;> cases hread
    | succ depth =>
      cases chain with
      | nil => simp
      | cons lower chain =>
        obtain ⟨hmem, hrest⟩ := List.isChain_cons_cons.1 hchain
        have := hlower value entry hread lower hmem chain hrest
        rw [List.length_cons]
        omega

theorem yields_source (depth : Nat) :
    Yields (fun source => ∀ entry ∈ source.dependencies.getD [], entry.FitsIn 2 depth)
      (source depth) := by
  refine yields_record (by simp) fun below hdepth => ?_
  have hentries : Yields (fun entries => ∀ entry ∈ entries, entry.FitsIn 2 depth)
      (list (within dependency below)) :=
    yields_list fun deeper hdeeper value entry hread =>
      (yields_dependency deeper value entry hread).inside (by omega)
  simp only [sourceFields, List.forall_mem_cons]
  exact ⟨keeps_field (yields_any _) fun _ _ _ hs => hs,
    keeps_field hentries.optional fun _ _ hentries _ => forall_mem_getD hentries, by simp⟩

/-- The entries of a provider. -/
theorem yields_provider (depth : Nat) :
    Yields (fun provider => ∀ source ∈ provider.sourceList,
      ∀ entry ∈ source.2.dependencies.getD [], entry.FitsIn 4 depth) (provider depth) := by
  refine yields_record (by simp [Provider.sourceList]) fun below hdepth => ?_
  have hsources : Yields (fun sources => ∀ source ∈ sources.toList,
      ∀ entry ∈ source.2.dependencies.getD [], entry.FitsIn 4 depth)
      (keyed (within source below)) :=
    @yields_keyed _ (fun source => ∀ entry ∈ source.dependencies.getD [], entry.FitsIn 4 depth) _ _
      fun deeper hdeeper value source hread entry hentry =>
        (yields_source deeper value source hread entry hentry).inside (by omega)
  simp only [providerFields, List.forall_mem_cons]
  exact ⟨keeps_field (yields_any _) fun _ _ _ hs => hs,
    keeps_field hsources.optional fun _ _ hall _ => forall_mem_toList hall, by simp⟩

theorem yields_analysis (depth : Nat) :
    Yields (fun analysis => ∀ provider ∈ analysis.providerList, ∀ source ∈ provider.2.sourceList,
      ∀ entry ∈ source.2.dependencies.getD [], entry.FitsIn 6 depth) (analysis depth) := by
  refine yields_record (by simp [AnalysisReport.providerList]) fun below hdepth => ?_
  have hproviders : Yields (fun providers => ∀ provider ∈ providers.toList,
      ∀ source ∈ provider.2.sourceList, ∀ entry ∈ source.2.dependencies.getD [],
        entry.FitsIn 6 depth) (keyed (within provider below)) :=
    @yields_keyed _ (fun provider => ∀ source ∈ provider.sourceList,
        ∀ entry ∈ source.2.dependencies.getD [], entry.FitsIn 6 depth) _ _
      fun deeper hdeeper value provider hread source hsource entry hentry =>
        (yields_provider deeper value provider hread source hsource entry hentry).inside (by omega)
  simp only [analysisFields, List.forall_mem_cons]
  exact ⟨keeps_field hproviders.optional fun _ _ hall _ => forall_mem_toList hall, by simp⟩

theorem nestsWithin_of_mem_listed {analysis : AnalysisReport} {depth n : Nat}
    (h : ∀ provider ∈ analysis.providerList, ∀ source ∈ provider.2.sourceList,
      ∀ entry ∈ source.2.dependencies.getD [], entry.FitsIn 6 depth)
    (hdepth : depth ≤ 2 * n + 8) : ∀ entry ∈ analysis.listed, entry.NestsWithin n := by
  intro entry hentry
  simp only [AnalysisReport.listed, List.mem_flatMap] at hentry
  obtain ⟨provider, hprovider, source, hsource, hentry⟩ := hentry
  exact (h provider hprovider source hsource entry hentry).nestsWithin hdepth

/-- A report is what is made of the value that a text starts with. -/
theorem exists_value_of_ofText {ecosystem : Ecosystem} {text : String} {report : Report}
    (h : ofText ecosystem text = .ok report) :
    ∃ value, (reader ecosystem).accepted value = some report := by
  rw [ofText] at h
  cases hdocument : Document.ofText text.toList with
  | broken => rw [hdocument] at h; cases h
  | complete value trailing =>
    simp only [hdocument] at h
    cases hread : (reader ecosystem).complete value with
    | error failure => rw [hread] at h; cases h
    | ok made =>
      rw [hread] at h
      cases trailing with
      | true => cases h
      | false =>
        cases h
        exact ⟨value, toOption_eq_some_iff.2 hread⟩

theorem reader_of_ne_docker {ecosystem : Ecosystem} (h : ecosystem ≠ .docker) :
    reader ecosystem = (analysis maxDepth).map .single := by
  cases ecosystem <;> first | exact absurd rfl h | rfl

/-- The entries of each analysis that a report holds. -/
theorem yields_reader (ecosystem : Ecosystem) :
    Yields (fun report => report.Suits ecosystem ∧ ∀ analysis ∈ report.analyses,
      ∀ entry ∈ analysis.2.listed, entry.NestsWithin (nestingLimit ecosystem))
      (reader ecosystem) := by
  by_cases hdocker : ecosystem = .docker
  · subst hdocker
    have himages : Yields (fun images => ∀ image ∈ images.toList, ∀ entry ∈ image.2.listed,
        entry.NestsWithin 59) (imageAnalyses maxDepth) :=
      @yields_keyed _ (fun analysis => ∀ entry ∈ analysis.listed, entry.NestsWithin 59) _ _
        fun below hbelow value analysis hread =>
          nestsWithin_of_mem_listed (yields_analysis below value analysis hread)
            (by rw [maxDepth] at hbelow; omega)
    refine himages.map fun images hall => ⟨rfl, ?_⟩
    simp only [analyses, List.forall_mem_map]
    exact hall
  · have hlimit : nestingLimit ecosystem = 60 := if_neg hdocker
    rw [reader_of_ne_docker hdocker, hlimit]
    refine (yields_analysis maxDepth).map fun analysis hall => ⟨hdocker, ?_⟩
    simp only [analyses, List.forall_mem_singleton]
    exact nestsWithin_of_mem_listed hall (by decide)

end Report

/-! ## What is written -/

namespace ReportFormat

open Json Json.Reader

/-- The entry is followed down through `n` entries, each in the list below the one before. -/
inductive Nested : Nat → Value → Prop where
  | here (value : Value) : Nested 0 value
  | step {n : Nat} {value item : Value} {items : List Value}
      (hlist : HoldsField "transitive" 2 value (.array items)) (hitem : item ∈ items)
      (h : Nested n item) : Nested (n + 1) value

/-- A source of a provider of the analysis lists the entry. -/
inductive Lists (analysis entry : Value) : Prop where
  | mk {providers sources : List (Quotation × Value)} {provider source : Quotation × Value}
      {entries : List Value}
      (hproviders : HoldsField "providers" 0 analysis (.object providers))
      (hprovider : provider ∈ providers)
      (hsources : HoldsField "sources" 1 provider.2 (.object sources)) (hsource : source ∈ sources)
      (hentries : HoldsField "dependencies" 1 source.2 (.array entries)) (hentry : entry ∈ entries)

/-- The report of an ecosystem holds the analysis. -/
def HoldsAnalysis : Ecosystem → Value → Value → Prop
  | .docker, report, analysis => ∃ members key, report = .object members ∧ (key, analysis) ∈ members
  | _, report, analysis => analysis = report

end ReportFormat

namespace Report

open Json Json.Reader ReportFormat

/-- Where an entry is accepted, there is room for the entries below it. -/
theorem nested_le {n : Nat} {value : Value} (h : Nested n value) {depth : Nat} {entry : Dependency}
    (hread : (dependency depth).accepted value = some entry) : 2 * n + 1 ≤ depth := by
  induction h generalizing depth entry with
  | here value =>
    cases depth with
    | zero => cases value <;> cases hread
    | succ depth => omega
  | step hlist hitem _ ih =>
    rw [dependency_eq] at hread
    obtain ⟨below, set, hbelow, hfield⟩ := accepted_field hread hlist (fun _ => rfl) fun _ => rfl
    obtain ⟨entries, hentries⟩ := accepted_of_optional_field hfield nofun
    obtain ⟨deeper, lower, hdeeper, hlower⟩ := accepted_item hentries hitem
    have := ih hlower
    omega

/-- Where an analysis is accepted, there is room for the entries below those that are listed. -/
theorem nested_le_of_lists {value entry : Value} (hlists : Lists value entry) {n : Nat}
    (h : Nested n entry) {depth : Nat} {report : AnalysisReport}
    (hread : (analysis depth).accepted value = some report) : 2 * n + 7 ≤ depth := by
  obtain ⟨hproviders, hprovider, hsources, hsource, hentries, hentry⟩ := hlists
  obtain ⟨_, _, hd₁, hfield⟩ := accepted_field hread hproviders (fun _ => rfl) fun _ => rfl
  obtain ⟨_, hread⟩ := accepted_of_optional_field hfield nofun
  obtain ⟨_, _, hd₂, hread⟩ := accepted_entry hread hprovider
  obtain ⟨_, _, hd₃, hfield⟩ := accepted_field hread hsources (fun _ => rfl) fun _ => rfl
  obtain ⟨_, hread⟩ := accepted_of_optional_field hfield nofun
  obtain ⟨_, _, hd₄, hread⟩ := accepted_entry hread hsource
  obtain ⟨_, _, hd₅, hfield⟩ := accepted_field hread hentries (fun _ => rfl) fun _ => rfl
  obtain ⟨_, hread⟩ := accepted_of_optional_field hfield nofun
  obtain ⟨_, _, hd₆, hread⟩ := accepted_item hread hentry
  have := nested_le h hread
  omega

theorem nested_le_nestingLimit {ecosystem : Ecosystem} {value analysis entry : Value}
    (hanalysis : HoldsAnalysis ecosystem value analysis) (hlists : Lists analysis entry) {n : Nat}
    (h : Nested n entry) {report : Report}
    (hread : (reader ecosystem).accepted value = some report) : n ≤ nestingLimit ecosystem := by
  by_cases hdocker : ecosystem = .docker
  · subst hdocker
    obtain ⟨members, key, rfl, hmember⟩ := hanalysis
    have hread : ((imageAnalyses maxDepth).map Report.images).accepted (.object members) =
        some report := hread
    rw [accepted_map, Option.map_eq_some_iff] at hread
    obtain ⟨images, hread, _⟩ := hread
    obtain ⟨below, image, hbelow, hread⟩ := accepted_entry hread hmember
    have hroom := nested_le_of_lists hlists h hread
    have hlimit : nestingLimit .docker = 59 := rfl
    rw [maxDepth] at hbelow
    omega
  · have hsame : analysis = value := by
      cases ecosystem <;> first | exact absurd rfl hdocker | exact hanalysis
    rw [reader_of_ne_docker hdocker, accepted_map, Option.map_eq_some_iff] at hread
    obtain ⟨single, hread, _⟩ := hread
    have hroom := nested_le_of_lists (hsame ▸ hlists) h hread
    have hlimit : nestingLimit ecosystem = 60 := if_neg hdocker
    rw [maxDepth] at hroom
    omega

end Report

open Json ReportFormat

/-- **Entries nest boundedly.**  In a report that is read from a text, no more than 60 entries are
below an entry that a source lists, each below the one before; in an analysis of an image no more
than 59.  So 61 calls are enough to make the records, or 60.  A text with more entries below each
other is refused, whichever records are written as objects or as arrays. -/
theorem accepted_entries_nest_boundedly (ecosystem : Ecosystem) (text : String) :
    (∀ report, Report.ofText ecosystem text = .ok report →
      report.Suits ecosystem ∧
      ∀ analysis ∈ report.analyses, ∀ entry ∈ analysis.2.listed,
        entry.NestsWithin (Report.nestingLimit ecosystem) ∧
        ∀ origin, Record.ofDependencyIn? origin (Report.nestingLimit ecosystem + 1) entry =
          some (Record.ofDependency? origin entry)) ∧
    ∀ value analysis entry n, value.Written text.toList → HoldsAnalysis ecosystem value analysis →
      Lists analysis entry → Nested n entry → Report.nestingLimit ecosystem < n →
      ∃ refusal, Report.ofText ecosystem text = .error refusal := by
  constructor
  · intro report hreport
    obtain ⟨value, hread⟩ := Report.exists_value_of_ofText hreport
    obtain ⟨hsuits, hnests⟩ := Report.yields_reader ecosystem value report hread
    exact ⟨hsuits, fun analysis hanalysis entry hentry => ⟨hnests analysis hanalysis entry hentry,
      Record.ofDependencyIn?_eq (hnests analysis hanalysis entry hentry)⟩⟩
  · intro value analysis entry n hwritten hanalysis hlists hnested hdeep
    cases hreport : Report.ofText ecosystem text with
    | error refusal => exact ⟨refusal, rfl⟩
    | ok report =>
      have hread : (Report.reader ecosystem).accepted value = some report := by
        rw [← Report.toOption_ofText ecosystem hwritten, hreport]
        rfl
      have hroom := Report.nested_le_nestingLimit hanalysis hlists hnested hread
      exact absurd hdeep (Nat.not_lt.2 hroom)

namespace Sample

/-- An entry with `n` entries below it, each below the one before. -/
def tower : Nat → Dependency
  | 0 => ⟨none, none, none, none⟩
  | n + 1 => ⟨none, none, some [tower n], none⟩

def towerValue : Nat → Value
  | 0 => .object []
  | n + 1 => .object [(plain "transitive", .array [towerValue n])]

theorem rendering_tower (n : Nat) : Rendering.dependency (tower n) (towerValue n) := by
  induction n with
  | zero =>
    exact ⟨[], [_, _, _, _], [], rfl, .refl _, by simp [Rendering.member?, Rendering.below], .nil⟩
  | succ n ih =>
    exact ⟨[_], [_, _, _], _, rfl, (@List.perm_middle _ _ [_, _] [_]).symm,
      by simp [Rendering.member?], .cons ⟨spells_plain _, _, rfl, .cons ih .nil⟩ .nil⟩

theorem depth_towerValue (n : Nat) : (towerValue n).depth = 2 * n + 1 := by
  induction n with
  | zero => rfl
  | succ n ih =>
    simp only [towerValue, Value.depth, Value.membersDepth, Value.itemsDepth, ih]
    omega

theorem depth_listing_towerValue (n : Nat) : (listingValue (towerValue n)).depth = 2 * n + 7 := by
  simp only [listingValue, Value.depth, Value.membersDepth, Value.itemsDepth, depth_towerValue]
  omega

theorem writable_listing_towerValue (n : Nat) :
    Rendering.Writable (listingValue (towerValue n)) := by
  have hobject : ∀ {name : String} {value : Value},
      (∀ c ∈ name.toList, c ≠ '"' ∧ c ≠ '\\' ∧ 0x20 ≤ c.toNat) → Rendering.Writable value →
        Rendering.Writable (.object [(plain name, value)]) := by
    intro name value hname hvalue
    exact Rendering.writable_object
      (List.forall_mem_singleton.2 ⟨⟨_, Quotation.written_map_char hname⟩, hvalue⟩)
  have harray : ∀ {value : Value}, Rendering.Writable value → Rendering.Writable (.array [value]) :=
    fun hvalue => Rendering.writable_array (List.forall_mem_singleton.2 hvalue)
  have htower : Rendering.Writable (towerValue n) := by
    induction n with
    | zero => exact Rendering.writable_object (by simp)
    | succ n ih => exact hobject (by simp) (harray ih)
  exact hobject (by simp) (hobject (by simp) (hobject (by simp) (hobject (by simp)
    (hobject (by simp) (harray htower)))))

theorem exists_towerText (n : Nat) :
    ∃ text : String, (listingValue (towerValue n)).Written text.toList := by
  obtain ⟨text, htext⟩ := exists_spaced (writable_listing_towerValue n)
  exact ⟨String.ofList text, by rwa [String.toList_ofList]⟩

theorem exists_descent_tower (n : Nat) :
    ∃ chain, Dependency.IsDescent (tower n :: chain) ∧ chain.length = n := by
  induction n with
  | zero => exact ⟨[], .singleton _, rfl⟩
  | succ n ih =>
    obtain ⟨chain, hchain, hlength⟩ := ih
    exact ⟨tower n :: chain, .cons_cons List.mem_cons_self hchain,
      by rw [List.length_cons, hlength]⟩

theorem nested_tower (n : Nat) : Nested n (towerValue n) := by
  induction n with
  | zero => exact .here _
  | succ n ih =>
    exact .step (.member List.mem_cons_self (spells_plain _)) List.mem_cons_self ih

theorem lists_tower (n : Nat) : Lists (listingValue (towerValue n)) (towerValue n) :=
  ⟨.member List.mem_cons_self (spells_plain _), List.mem_cons_self,
    .member List.mem_cons_self (spells_plain _), List.mem_cons_self,
    .member List.mem_cons_self (spells_plain _), List.mem_cons_self⟩

end Sample

/-- A tower of 60 entries below another one is read, and one of 61 is refused. -/
theorem sample_tower_reaches_the_limit :
    (∃ text, Report.ofText .npm text = .ok (.single (Sample.listing (Sample.tower 60))) ∧
      (Sample.tower 60).NestsWithin 60 ∧
      ∃ chain, Dependency.IsDescent (Sample.tower 60 :: chain) ∧ chain.length = 60) ∧
    ∃ text refusal, (Sample.listingValue (Sample.towerValue 61)).Written text.toList ∧
      Report.ofText .npm text = .error refusal := by
  obtain ⟨text, htext⟩ := Sample.exists_towerText 60
  obtain ⟨deeper, hdeeper⟩ := Sample.exists_towerText 61
  have hread := Report.ofText_of_written (show (Report.single _).Suits .npm by simp [Report.Suits])
    (Sample.rendering_listing (Sample.rendering_tower 60))
    (by rw [Sample.depth_listing_towerValue]; decide) htext ""
  rw [String.append_empty, if_pos (by simp [IsBlank])] at hread
  have hnests := ((accepted_entries_nest_boundedly .npm text).1 _ hread).2 (none, _)
    List.mem_cons_self (Sample.tower 60) List.mem_cons_self
  obtain ⟨refusal, hrefused⟩ := (accepted_entries_nest_boundedly .npm deeper).2 _ _ _ 61 hdeeper rfl
    (Sample.lists_tower 61) (Sample.nested_tower 61) (by decide)
  exact ⟨⟨text, hread, hnests.1, Sample.exists_descent_tower 60⟩, deeper, refusal, hdeeper,
    hrefused⟩

end ManifestSarif
