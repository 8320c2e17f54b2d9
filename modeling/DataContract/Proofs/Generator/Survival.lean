import DataContract.Host.Memory
import DataContract.Proofs.Generator.Reached
import DataContract.Proofs.Host.Directory
import DataContract.Proofs.UnitName.Folding
import Mathlib.Data.List.Nodup

/-!
# Which files survive a run

On a file system that does not tell upper from lower case, a file takes the place of another one if
their names fold together.  The names of the units submitted in one run never fold together with a
declaration of a marker, since they have underscores and the declarations have none.  Among
themselves they are kept apart by everything but case twins.

* `separate_iff` --- the units of a run are separate exactly if no two of them belong to different
  qualified names that are case twins.
* `nodup_files_iff` --- this is what it takes for the files of a run to survive.

Two types with the names U+0398 and U+03F4 are twins (`not_separate_of_theta`).
-/

namespace DataContract

open Declaration

/-- Candidates with different names that are made of identifiers: no segment begins with a digit or
has a slash. -/
structure WellNamed (cs : List Candidate) : Prop where
  addressable : ∀ c ∈ cs, c.Addressable
  distinct : (cs.map Candidate.qualifiedName).Nodup
  digit : ∀ c ∈ cs, ∀ s ∈ c.qualifiedName.segments, s.startsWithDigit = false
  slash : ∀ c ∈ cs, ∀ s ∈ c.qualifiedName.segments, '/' ∉ s.name.toList

/-- Units whose names do not fold together, and whose files do not fold together with those of the
declarations. -/
structure Separate (units : List UnitName) : Prop where
  folded : (units.map UnitName.folded).Nodup
  preludes : ∀ u ∈ units, Text.lowercase u.fileName ∉ preludeFiles.map Text.lowercase

/-- Candidates for which there are units for the same engine are only case twins if they have the
same name. -/
def NoTwins (cs : List Candidate) (units : List UnitName) : Prop :=
  ∀ c ∈ cs, ∀ d ∈ cs, ∀ e, UnitName.ofCandidate c e ∈ units → UnitName.ofCandidate d e ∈ units →
    UnitName.CaseTwins c.qualifiedName d.qualifiedName → c.qualifiedName = d.qualifiedName

/-! ## Matches -/

/-- Candidates with different names give different matches. -/
theorem WellNamed.nodup_matches {cs : List Candidate} (hcs : WellNamed cs) {config : Configuration}
    (hengines : config.engines.Nodup) : (cs.flatMap (Pass.matchesOf config)).Nodup := by
  rw [List.nodup_flatMap]
  refine ⟨fun c _ => ?_, (List.Nodup.of_map _ hcs.distinct).imp fun {c d} hne m hc hd => ?_⟩
  · exact (hengines.filter _).map fun e f h => congrArg Match.engine h
  · exact hne ((Pass.mem_matchesOf.mp hc).1.symm.trans (Pass.mem_matchesOf.mp hd).1)

/-- A unit name belongs to one match. -/
theorem WellNamed.unitName_inj {cs : List Candidate} (hcs : WellNamed cs) {m n : Match}
    (hm : m.candidate ∈ cs) (hn : n.candidate ∈ cs) (h : m.unitName = n.unitName) : m = n := by
  obtain ⟨hname, hengine⟩ :=
    UnitName.flatten_inj (hcs.digit m.candidate hm) (hcs.digit n.candidate hn) h
  have hcandidate : m.candidate = n.candidate :=
    List.inj_on_of_nodup_map hcs.distinct hm hn hname
  obtain ⟨c, e⟩ := m
  obtain ⟨d, f⟩ := n
  dsimp only at hengine hcandidate
  rw [hengine, hcandidate]

/-- The matches of candidates are about these candidates. -/
theorem Pass.candidate_mem {cs : List Candidate} {config : Configuration} {taken : List Match}
    (htaken : taken.Sublist (cs.flatMap (matchesOf config))) : ∀ m ∈ taken, m.candidate ∈ cs := by
  intro m hm
  obtain ⟨c, hc, hmem⟩ := List.mem_flatMap.mp (htaken.subset hm)
  rw [(mem_matchesOf.mp hmem).1]
  exact hc

/-! ## Declarations -/

/-- Every flattened name ends in an underscore. -/
theorem UnitName.underscore_mem_flattenSegments {n : QualifiedName} (hn : n.segments ≠ []) :
    '_' ∈ flattenSegments n := by
  obtain ⟨s, hs⟩ := List.exists_mem_of_ne_nil _ hn
  refine List.mem_flatMap.mpr ⟨s, hs, ?_⟩
  rw [flattenSegment]
  exact List.mem_append_right _ (List.mem_singleton.mpr rfl)

/-- The declarations do not fold together: they differ in the first letter behind the namespace. -/
theorem nodup_lowercase_preludeFiles : (preludeFiles.map Text.lowercase).Nodup := by
  have hchars : ∀ e : Engine, (UnitName.sourceFile e.markerDeclaration.name).toList =
      (Engine.markerNamespace ++ ".").toList ++ (e.markerName.toList ++ ".g.cs".toList) := by
    intro e
    rw [UnitName.sourceFile, Engine.markerDeclaration, String.toList_append, String.toList_append,
      List.append_assoc]
  have hcommon : 'Σ' ∉ (Engine.markerNamespace ++ ".").toList := by decide
  have hjson : Engine.json.markerName.toList = 'J' :: "sonContractAttribute".toList := by decide
  have hxml : Engine.xml.markerName.toList = 'X' :: "mlContractAttribute".toList := by decide
  have hj : ∀ before after, Text.lowerPiece before 'J' after = ['j'] := fun _ _ => by
    rw [Text.lowerPiece, if_neg (by decide), if_neg (by decide)]
    decide
  have hx : ∀ before after, Text.lowerPiece before 'X' after = ['x'] := fun _ _ => by
    rw [Text.lowerPiece, if_neg (by decide), if_neg (by decide)]
    decide
  have hne : Text.lowercase (UnitName.sourceFile Engine.json.markerDeclaration.name) ≠
      Text.lowercase (UnitName.sourceFile Engine.xml.markerDeclaration.name) := by
    intro h
    have hlower := congrArg String.toList h
    rw [Text.lowercase, Text.lowercase, String.toList_ofList, String.toList_ofList, hchars, hchars,
      Text.lowerFrom_append_of_notMem hcommon, Text.lowerFrom_append_of_notMem hcommon,
      List.append_right_inj, hjson, hxml, List.cons_append, List.cons_append, Text.lowerFrom_cons,
      Text.lowerFrom_cons, hj, hx] at hlower
    exact absurd (List.head_eq_of_cons_eq hlower) (by decide)
  simp only [preludeFiles, Engine.all, List.map_cons, List.map_nil]
  rw [List.nodup_cons]
  exact ⟨fun h => hne (List.mem_singleton.mp h), List.nodup_singleton _⟩

/-- No unit folds together with a declaration. -/
theorem lowercase_fileName_notMem (c : Candidate) (e : Engine) :
    Text.lowercase (UnitName.ofCandidate c e).fileName ∉ preludeFiles.map Text.lowercase := by
  have hfiles : ∀ file ∈ preludeFiles, '_' ∉ file.toList := by decide
  have hpreludes : ∀ file ∈ preludeFiles.map Text.lowercase, '_' ∉ file.toList := by
    intro file hfile
    obtain ⟨original, horiginal, rfl⟩ := List.mem_map.mp hfile
    rw [Text.lowercase, String.toList_ofList]
    exact Text.underscore_notMem_lowerFrom (hfiles original horiginal) []
  have hsegments : c.qualifiedName.folded.segments ≠ [] := by
    simp [QualifiedName.folded, Candidate.qualifiedName, Candidate.chain]
  intro hmem
  refine hpreludes _ hmem ?_
  rw [UnitName.ofCandidate, UnitName.lowercase_fileName, UnitName.sourceFile, String.toList_append,
    UnitName.folded_eq]
  exact List.mem_append_left _ (List.mem_append_left _ (List.mem_append_left _
    (UnitName.underscore_mem_flattenSegments hsegments)))

/-! ## Units -/

/-- **The units of some of the matches are separate exactly if there are no twins among them.** -/
theorem WellNamed.separate_iff {cs : List Candidate} (hcs : WellNamed cs) {config : Configuration}
    (hengines : config.engines.Nodup) {taken : List Match}
    (htaken : taken.Sublist (cs.flatMap (Pass.matchesOf config))) :
    Separate (taken.map Match.unitName) ↔ NoTwins cs (taken.map Match.unitName) := by
  have hmem := Pass.candidate_mem htaken
  constructor
  · intro hseparate c hc d hd e hce hde htwins
    have hfold : (UnitName.ofCandidate c e).folded = (UnitName.ofCandidate d e).folded :=
      (UnitName.folded_eq_iff (hcs.digit c hc) (hcs.digit d hd)).mpr ⟨rfl, htwins⟩
    have hsame := List.inj_on_of_nodup_map hseparate.folded hce hde hfold
    exact (UnitName.flatten_inj (hcs.digit c hc) (hcs.digit d hd) hsame).1
  · intro hnone
    refine ⟨?_, ?_⟩
    · rw [List.map_map]
      refine List.Nodup.map_on ?_ ((hcs.nodup_matches hengines).sublist htaken)
      intro m hm n hn hfold
      obtain ⟨hengine, htwins⟩ := (UnitName.folded_eq_iff (hcs.digit _ (hmem m hm))
        (hcs.digit _ (hmem n hn))).mp hfold
      have hname : m.candidate.qualifiedName = n.candidate.qualifiedName := by
        refine hnone _ (hmem m hm) _ (hmem n hn) m.engine ?_ ?_ htwins
        · exact List.mem_map.mpr ⟨m, hm, rfl⟩
        · rw [hengine]
          exact List.mem_map.mpr ⟨n, hn, rfl⟩
      refine hcs.unitName_inj (hmem m hm) (hmem n hn) ?_
      rw [Match.unitName, Match.unitName, UnitName.ofCandidate, UnitName.ofCandidate, hname, hengine]
    · intro u hu
      obtain ⟨m, -, rfl⟩ := List.mem_map.mp hu
      exact lowercase_fileName_notMem m.candidate m.engine

/-! ## Files -/

/-- Characters of a flattened name that are neither underscores nor digits stand in its segments. -/
theorem UnitName.mem_of_mem_flattenSegments {n : QualifiedName} {x : Char} (hx : x ≠ '_')
    (hdigit : x.isDigit = false) (h : x ∈ flattenSegments n) :
    ∃ s ∈ n.segments, x ∈ s.name.toList := by
  obtain ⟨s, hs, hmem⟩ := List.mem_flatMap.mp h
  refine ⟨s, hs, ?_⟩
  rw [flattenSegment, List.mem_append, List.mem_append, List.mem_singleton] at hmem
  rcases hmem with (hname | harity) | hlast
  · obtain ⟨y, hy, hesc⟩ := List.mem_flatMap.mp hname
    rw [escapeUnderscore] at hesc
    split at hesc
    · rw [List.mem_cons, List.mem_singleton] at hesc
      rcases hesc with rfl | rfl
      · exact absurd rfl hx
      · exact absurd hdigit (by decide)
    · rw [List.mem_singleton.mp hesc]
      exact hy
  · split at harity
    · cases harity
    · rcases List.mem_cons.mp harity with rfl | harity
      · exact absurd rfl hx
      · rw [Nat.isDigit_of_mem_toDigits (by decide) (by decide) harity] at hdigit
        cases hdigit
  · exact absurd hlast hx

/-- The file of a unit has no slash in its name. -/
theorem slash_notMem_fileName {c : Candidate}
    (hc : ∀ s ∈ c.qualifiedName.segments, '/' ∉ s.name.toList) (e : Engine) :
    '/' ∉ (UnitName.ofCandidate c e).fileName.toList := by
  have hflat : '/' ∉ flattenSegments c.qualifiedName := by
    intro h
    obtain ⟨s, hs, hmem⟩ := UnitName.mem_of_mem_flattenSegments (by decide) (by decide) h
    exact hc s hs hmem
  have hsuffix : '/' ∉ e.unitSuffix.toList := by
    cases e <;> decide
  have hsignature : '/' ∉ UnitName.marked (caseSignature (flattenSegments c.qualifiedName)) := by
    rw [UnitName.marked]
    split
    · exact List.not_mem_nil
    · rw [List.mem_cons, not_or]
      refine ⟨by decide, fun h => ?_⟩
      exact absurd (UnitName.mem_signatureDigits_of_mem_caseSignature h) (by decide)
  have hchars : (UnitName.ofCandidate c e).fileName.toList =
      flattenSegments c.qualifiedName ++ e.unitSuffix.toList ++
        UnitName.marked (caseSignature (flattenSegments c.qualifiedName)) ++ ".g.cs".toList := by
    rw [UnitName.fileName, UnitName.sourceFile, String.toList_append, UnitName.ofCandidate,
      UnitName.flatten, String.toList_ofList]
    rfl
  rw [hchars, List.mem_append, List.mem_append, List.mem_append, not_or, not_or, not_or]
  exact ⟨⟨⟨hflat, hsuffix⟩, hsignature⟩, by decide⟩

/-- **A run over a directory host** writes the declarations and then the units that its log tells
of. -/
theorem Generator.Sound.written_run {config : Configuration} {g : Generator}
    (hg : g.Sound config) {h : DirectoryHost} (hcs : WellNamed h.candidates) :
    (g.run h).host.written = h.written ++
      (preludeFiles ++ (submissions (g.run h).log).map UnitName.fileName) := by
  obtain ⟨h', hd, -, hwritten⟩ := DirectoryHost.declareMarkers_eq Engine.all h
  have hoffered := DirectoryHost.offered_eq h
  have hfound : ∀ m ∈ h.candidates.flatMap (Pass.matchesOf config),
      m.ArisesUnder config ∧ '/' ∉ m.unitName.fileName.toList := by
    intro m hm
    refine ⟨Pass.arisesUnder_of_mem hcs.addressable hm, ?_⟩
    have hmem := Pass.candidate_mem (List.Sublist.refl _) m hm
    exact slash_notMem_fileName (hcs.slash m.candidate hmem) m.engine
  have hstep : ∀ m ∈ h.candidates.flatMap (Pass.matchesOf config), ∀ s : Emission DirectoryHost,
      DirectoryHost.Tracks (h.written ++ preludeFiles) s ∧ CacheStems (· = config) s.cache →
        DirectoryHost.Tracks (h.written ++ preludeFiles) (s.emit config m).2 ∧
          CacheStems (· = config) (s.emit config m).2.cache := by
    rintro m hm s ⟨htracks, hstems⟩
    obtain ⟨harises, hslash⟩ := hfound m hm
    refine ⟨htracks.emit hslash fun generated hmade =>
      Match.name_of_produce harises hstems hmade, ?_⟩
    rw [Emission.cache_emit]
    refine Match.cacheStems_produce ?_ harises hstems
    rfl
  have hstart : DirectoryHost.Tracks (h.written ++ preludeFiles)
      ((Pass.gathered config g.passCache h.candidates).emission h') :=
    hwritten.trans (List.append_nil _).symm
  have hemitted := (Emission.emitAll_preserves hstep ⟨hstart, hg.passCache⟩).1
  rw [DirectoryHost.Tracks] at hemitted
  have hrun : (g.run h).host.written = (((Pass.gathered config g.passCache h.candidates).emission
      h').emitAll config (h.candidates.flatMap (Pass.matchesOf config))).2.host.written := by
    rw [Generator.run, hg.configuration, Pass.run_fresh_of_ok config g.passCache hd,
      Pass.finish_eq (Pass.finish_allowedIn_gathered ..), Pass.found_gathered, hoffered]
    dsimp only
    rw [Pass.host_conclude]
    rfl
  rw [hrun, hemitted, Generator.submissions_run_eq, hg.configuration, Pass.submissions_run hd,
    hoffered, List.append_assoc]

/-- **Files survive exactly if the units are separate.** -/
theorem nodup_files_iff {taken : List Match} :
    ((preludeFiles ++ (taken.map Match.unitName).map UnitName.fileName).map
      Text.lowercase).Nodup ↔ Separate (taken.map Match.unitName) := by
  have hinj : Function.Injective UnitName.sourceFile := fun s t h =>
    (String.append_left_inj _).mp h
  have hfiles : ((taken.map Match.unitName).map UnitName.fileName).map Text.lowercase =
      ((taken.map Match.unitName).map UnitName.folded).map UnitName.sourceFile := by
    simp only [List.map_map]
    refine List.map_congr_left fun m _ => ?_
    exact UnitName.lowercase_fileName m.candidate.qualifiedName m.engine
  rw [List.map_append, List.nodup_append]
  constructor
  · rintro ⟨-, hnodup, hdisjoint⟩
    rw [hfiles, List.nodup_map_iff hinj] at hnodup
    refine ⟨hnodup, fun u hu hmem => ?_⟩
    exact hdisjoint _ hmem _ (List.mem_map_of_mem (List.mem_map_of_mem hu)) rfl
  · intro hseparate
    refine ⟨nodup_lowercase_preludeFiles, ?_, ?_⟩
    · rw [hfiles, List.nodup_map_iff hinj]
      exact hseparate.folded
    · rintro file hprelude _ hmem rfl
      rw [List.map_map] at hmem
      obtain ⟨u, hu, rfl⟩ := List.mem_map.mp hmem
      exact hseparate.preludes u hu hprelude

/-! ## The exact condition -/

/-- **No unit overwrites another exactly if there are no case twins.**  This is for every generator
that one comes by and for every run of it: over any host, the units submitted are separate exactly
if no two of them are for types with different qualified names that are case twins, and over a
directory host the files written in the run survive exactly under the same condition. -/
theorem separate_iff_noTwins {config : Configuration} {g : Generator} (hg : g.Reached config) :
    (∀ (H : Type) [Host H] (h : H), WellNamed (Pass.offered h) →
      (Separate (submissions (g.run h).log) ↔
        NoTwins (Pass.offered h) (submissions (g.run h).log))) ∧
    ∀ h : DirectoryHost, WellNamed h.candidates →
      ∃ files, (g.run h).host.written = h.written ++ files ∧
        ((files.map Text.lowercase).Nodup ↔
          NoTwins h.candidates (submissions (g.run h).log)) := by
  have hsound := hg.sound
  refine ⟨fun H _ h hcs => ?_, fun h hcs => ?_⟩
  · obtain ⟨taken, htaken, hlog⟩ := hsound.submissions_run hcs.addressable
    rw [hlog]
    exact hcs.separate_iff hsound.engines htaken
  · have hoffered := DirectoryHost.offered_eq h
    obtain ⟨taken, htaken, hlog⟩ : ∃ taken : List Match,
        taken.Sublist ((Pass.offered h).flatMap (Pass.matchesOf config)) ∧
          submissions (g.run h).log = taken.map Match.unitName := by
      refine hsound.submissions_run ?_
      rw [hoffered]
      exact hcs.addressable
    rw [hoffered] at htaken
    refine ⟨_, hsound.written_run hcs, ?_⟩
    rw [hlog, nodup_files_iff]
    exact hcs.separate_iff hsound.engines htaken

/-- A type that is eligible for JSON. -/
def jsonType (name : String) : Candidate where
  header := ⟨name, .class_, [.partial_], []⟩
  attributes := [⟨Engine.json.markerPath, [], ""⟩, ⟨Engine.serializableMarker, [], ""⟩]
  members := []
  enclosing := []
  within := none

theorem addressable_jsonType (name : String) : (jsonType name).Addressable where
  header := ⟨(by decide : 1 < CacheKey.wordLimit), (by decide : 0 < CacheKey.wordLimit)⟩
  enclosing_length := (by decide : 0 < CacheKey.wordLimit)
  enclosing := fun _ h => nomatch h
  attributes := by
    intro usage h
    rw [jsonType, List.mem_cons, List.mem_singleton] at h
    rcases h with rfl | rfl <;> exact (by decide : 0 < CacheKey.wordLimit)
  members := fun _ h => nomatch h

/-- A capital theta and a small one. -/
def thetas : List Candidate := [jsonType "Θ", jsonType "θ"]

theorem wellNamed_thetas : WellNamed thetas where
  addressable := by
    intro c hc
    rw [thetas, List.mem_cons, List.mem_singleton] at hc
    rcases hc with rfl | rfl <;> exact addressable_jsonType _
  distinct := by decide
  digit := by decide
  slash := by decide

/-- A run over the two types, of the generator by default. -/
theorem separate_iff_noTwins_thetas :
    Generator.standard.Reached .standard ∧ WellNamed thetas ∧
      (Separate (submissions (Generator.standard.run (MemoryHost.ofCandidates thetas)).log) ↔
        NoTwins thetas
          (submissions (Generator.standard.run (MemoryHost.ofCandidates thetas)).log)) ∧
      ∃ files, (Generator.standard.run (DirectoryHost.ofCandidates thetas)).host.written =
          [] ++ files ∧
        ((files.map Text.lowercase).Nodup ↔ NoTwins thetas
          (submissions (Generator.standard.run (DirectoryHost.ofCandidates thetas)).log)) := by
  have hreached : Generator.standard.Reached .standard := .start rfl
  exact ⟨hreached, wellNamed_thetas,
    (separate_iff_noTwins hreached).1 MemoryHost (MemoryHost.ofCandidates thetas) wellNamed_thetas,
    (separate_iff_noTwins hreached).2 (DirectoryHost.ofCandidates thetas) wellNamed_thetas⟩

/-- Two types that are named after the two thetas. -/
theorem not_separate_of_theta :
    ¬Separate (submissions
      (Generator.standard.run (MemoryHost.ofCandidates [jsonType "Θ", jsonType "ϴ"])).log) := by
  have hnames : submissions
      (Generator.standard.run (MemoryHost.ofCandidates [jsonType "Θ", jsonType "ϴ"])).log =
        [.ofCandidate (jsonType "Θ") .json, .ofCandidate (jsonType "ϴ") .json] := rfl
  have hfold : (UnitName.ofCandidate (jsonType "Θ") .json).folded =
      (UnitName.ofCandidate (jsonType "ϴ") .json).folded :=
    (UnitName.folded_eq_iff (by decide) (by decide)).mpr ⟨rfl, UnitName.caseTwins_theta⟩
  intro h
  have hnodup := h.folded
  rw [hnames, List.map_cons, List.map_cons, List.nodup_cons, hfold] at hnodup
  exact hnodup.1 (List.mem_cons_self ..)

end DataContract
