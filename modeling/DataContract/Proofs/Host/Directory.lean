import DataContract.Host.Directory
import DataContract.Proofs.Pass.Submission
import DataContract.Proofs.Text.Split

/-!
# The files that a directory host writes

A name without a slash is a file in the directory itself, so a directory host writes the unit under
the file name of the unit or refuses it.  In a run it writes the declarations of the markers and then
exactly the units that the log tells of (`written_run`).
-/

namespace DataContract

open Declaration

/-- The files of the marker declarations. -/
def preludeFiles : List String :=
  Engine.all.map fun e => UnitName.sourceFile e.markerDeclaration.name

/-- A name without a slash leads to a file of that name. -/
theorem FilePlace.name_of_ofPath? {path : String} (h : '/' ∉ path.toList) {place : FilePlace}
    (hplace : ofPath? path = some place) : place.name = path := by
  have hparts : (Text.splitWhere (· == '/') path.toList).map String.ofList = [path] := by
    have hsplit : Text.splitWhere (· == '/') path.toList = [path.toList] :=
      Text.splitWhere_of_forall fun c hc => by
        rw [beq_eq_false_iff_ne]
        rintro rfl
        exact h hc
    rw [hsplit, List.map_singleton, String.ofList_toList]
  rw [ofPath?, hparts] at hplace
  split at hplace
  · cases hplace
  · change (if isFileName path then some ⟨0, path⟩ else none) = some place at hplace
    split at hplace
    · rw [← Option.some.inj hplace]
    · cases hplace

namespace DirectoryHost

/-- A file that is written is written under its name, unless that has a slash. -/
theorem written_write {path : String} (hpath : '/' ∉ path.toList) (h : DirectoryHost)
    (content : String) :
    ((h.write path content).1 = .ok () ∧
      (h.write path content).2.written = h.written ++ [path]) ∨
    (∃ error, (h.write path content).1 = .error error ∧ (h.write path content).2 = h) := by
  rw [write]
  cases hplace : FilePlace.ofPath? path with
  | none => exact Or.inr ⟨_, rfl, rfl⟩
  | some place =>
    refine Or.inl ⟨rfl, ?_⟩
    show h.written ++ [place.name] = h.written ++ [path]
    rw [FilePlace.name_of_ofPath? hpath hplace]

/-- A directory host takes the declarations. -/
theorem declareMarkers_eq (engines : List Engine) (h : DirectoryHost) :
    ∃ h' : DirectoryHost, Pass.declareMarkers engines h = (.ok (), h') ∧
      h'.candidates = h.candidates ∧
      h'.written = h.written ++ engines.map fun e => UnitName.sourceFile e.markerDeclaration.name := by
  have hplace : ∀ e : Engine,
      FilePlace.ofPath? (UnitName.sourceFile e.markerDeclaration.name) =
        some ⟨0, UnitName.sourceFile e.markerDeclaration.name⟩ := by
    intro e
    cases e <;> decide
  induction engines generalizing h with
  | nil => exact ⟨h, rfl, rfl, (List.append_nil _).symm⟩
  | cons e engines ih =>
    have hregister : ∃ h₁ : DirectoryHost, Host.register e.markerDeclaration h = (.ok (), h₁) ∧
        h₁.candidates = h.candidates ∧
        h₁.written = h.written ++ [UnitName.sourceFile e.markerDeclaration.name] := by
      refine ⟨{ h with
        files := putFile h.files (UnitName.sourceFile e.markerDeclaration.name)
          e.markerDeclaration.source
        written := h.written ++ [UnitName.sourceFile e.markerDeclaration.name] }, ?_, rfl, rfl⟩
      show h.write _ _ = _
      rw [write, hplace]
      rfl
    obtain ⟨h₁, hstep, hcandidates, hwritten⟩ := hregister
    obtain ⟨h', hrest, hcandidates', hwritten'⟩ := ih h₁
    refine ⟨h', ?_, hcandidates'.trans hcandidates, ?_⟩
    · rw [Pass.declareMarkers, hstep]
      exact hrest
    · rw [hwritten', hwritten, List.append_assoc, List.singleton_append, List.map_cons]

theorem offered_eq (h : DirectoryHost) : Pass.offered h = h.candidates := by
  obtain ⟨h', hdeclared, hcandidates, -⟩ := declareMarkers_eq Engine.all h
  rw [Pass.offered, hdeclared]
  exact hcandidates

/-- Since `before`, an emission has written the files of the units that its log tells of. -/
def Tracks (before : List String) (s : Emission DirectoryHost) : Prop :=
  s.host.written = before ++ (submissions s.log).map UnitName.fileName

variable {before : List String} {s : Emission DirectoryHost}

theorem Tracks.diagnoseAll (h : Tracks before s) (ds : Diagnostics) :
    Tracks before (s.diagnoseAll ds) := by
  have hwritten : (s.diagnoseAll ds).host.written = s.host.written := by
    clear h
    induction ds generalizing s with
    | nil => rfl
    | cons d ds ih => exact ih
  rw [Tracks, hwritten, Emission.submissions_diagnoseAll]
  exact h

theorem Tracks.submit (h : Tracks before s) (e : Engine) {unit : GeneratedUnit}
    (hslash : '/' ∉ unit.name.fileName.toList) : Tracks before (s.submit e unit).2 := by
  have hwrite : ((Host.submit unit s.host).1 = .ok () ∧
      (Host.submit unit s.host).2.written = s.host.written ++ [unit.name.fileName]) ∨
      (∃ error, (Host.submit unit s.host).1 = .error error ∧
        (Host.submit unit s.host).2 = s.host) := written_write hslash s.host unit.source
  rw [Emission.submit]
  rcases hsubmit : Host.submit unit s.host with ⟨_ | _, host⟩
  · rw [hsubmit] at hwrite
    rcases hwrite with ⟨hok, -⟩ | ⟨error, -, hhost⟩
    · cases hok
    · have hsame : host = s.host := hhost
      show host.written = before ++ (submissions s.log).map UnitName.fileName
      rw [hsame]
      exact h
  · rw [hsubmit] at hwrite
    rcases hwrite with ⟨-, hwritten⟩ | ⟨error, herror, -⟩
    · show host.written = before ++ (submissions (s.log ++ _)).map UnitName.fileName
      rw [hwritten, h, submissions_append, List.map_append, List.append_assoc]
      rfl
    · cases herror

/-- **A match writes a file exactly if it adds to the log.** -/
theorem Tracks.emit (h : Tracks before s) {config : Configuration} {m : Match}
    (hslash : '/' ∉ m.unitName.fileName.toList)
    (hname : ∀ generated, (m.produce config s.cache).result = .ok generated →
      generated.unit.name = m.unitName) : Tracks before (s.emit config m).2 := by
  have hrecord : Tracks before (s.record (m.produce config s.cache)) := by
    rw [Tracks, Emission.record, submissions_append, m.submissions_produce, List.append_nil]
    exact h
  rw [Emission.emit]
  cases hresult : (m.produce config s.cache).result with
  | error error => exact hrecord.diagnoseAll [error.diagnostic m.candidate.target]
  | ok generated =>
    rw [← hname generated hresult] at hslash
    exact (hrecord.diagnoseAll generated.warnings).submit m.engine hslash

end DirectoryHost

end DataContract
