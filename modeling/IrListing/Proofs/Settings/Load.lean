import IrListing.Proofs.Yaml.Undecodable
import IrListing.Settings.Load

namespace IrListing.Settings

variable {files : Files} {env : Environment} {given : Option Text} {path : Text}

/-- What breaks a program off that loads settings. A directory is only looked for where a path is
given. -/
inductive Breaks (files : Files) (given : Option Text) : Crash → Prop
  | directory (usual : given = none) (found : files usualPath = .directory) :
    Breaks files given .directoryRead
  | tooLong (found : files (pathOf given) = .tooLong) : Breaks files given .pathTooLong
  | document {bytes : List UInt8} {f : Yaml.Fault} (found : files (pathOf given) = .file bytes)
    (fault : Yaml.read documentDepth bytes = .error (.fault f)) : Breaks files given (.document f)

theorem path_of_settle {es : Assoc Text Value} {t : Trouble}
    (h : settle path env es = .error t) : ∃ cause, t = .failure ⟨path, cause⟩ := by
  unfold settle at h
  split at h
  · cases h
  · rename_i findings _
    cases h
    exact ⟨.unfit findings, rfl⟩

theorem path_of_entriesOf {document : Value} {t : Trouble}
    (h : entriesOf path document = .error t) : ∃ cause, t = .failure ⟨path, cause⟩ := by
  unfold entriesOf at h
  split at h
  · cases h
  · split at h
    · cases h
    · cases h
      exact ⟨.notMap, rfl⟩

theorem entriesAt_eq_error {t : Trouble} (h : entriesAt files path = .error t) :
    (∃ cause, t = .failure ⟨path, cause⟩) ∨
      (files path = .directory ∧ t = .crash .directoryRead) ∨
      (files path = .tooLong ∧ t = .crash .pathTooLong) ∨
      ∃ bytes f, files path = .file bytes ∧ Yaml.read documentDepth bytes = .error (.fault f) ∧
        t = .crash (.document f) := by
  unfold entriesAt at h
  split at h
  · cases h
  · cases h
  · cases h
    exact .inr (.inl ⟨‹_›, rfl⟩)
  · cases h
    exact .inr (.inr (.inl ⟨‹_›, rfl⟩))
  · rename_i bytes found
    split at h
    · cases h
      exact .inl ⟨.malformed, rfl⟩
    · rename_i f fault
      cases h
      exact .inr (.inr (.inr ⟨bytes, f, found, fault, rfl⟩))
    · exact .inl (path_of_entriesOf h)

theorem load_eq_error {t : Trouble} (h : load files env given = .error t) :
    (∃ cause, t = .failure ⟨pathOf given, cause⟩) ∨ ∃ c, t = .crash c ∧ Breaks files given c := by
  unfold load at h
  dsimp only at h
  split at h
  · cases h
    exact .inl ⟨.notFound, rfl⟩
  · rename_i present
    cases entries : entriesAt files (pathOf given) with
    | ok es =>
      rw [entries] at h
      exact .inl (path_of_settle h)
    | error t' =>
      rw [entries] at h
      cases h
      obtain reported | ⟨found, rfl⟩ | ⟨found, rfl⟩ | ⟨bytes, f, found, fault, rfl⟩ :=
        entriesAt_eq_error entries
      · exact .inl reported
      · -- A directory at a given path is no file, which is noticed before it is opened.
        cases given with
        | none => exact .inr ⟨_, rfl, .directory rfl found⟩
        | some path => simp [found, Entry.isFile] at present
      · exact .inr ⟨_, rfl, .tooLong found⟩
      · exact .inr ⟨_, rfl, .document found fault⟩

theorem Breaks.load_eq {c : Crash} (h : Breaks files given c) :
    load files env given = .error (.crash c) := by
  cases h with
  | directory usual found =>
    subst usual
    have entries : entriesAt files (pathOf none) = .error (.crash .directoryRead) := by
      simp only [entriesAt, show pathOf none = usualPath from rfl, found]
    simp [load, entries, Except.bind]
  | tooLong found =>
    have entries : entriesAt files (pathOf given) = .error (.crash .pathTooLong) := by
      simp only [entriesAt, found]
    simp [load, entries, found, Except.bind]
  | document found fault =>
    rename_i bytes f
    have entries : entriesAt files (pathOf given) = .error (.crash (.document f)) := by
      simp only [entriesAt, found, fault]
    simp [load, entries, found, Entry.isFile, Except.bind]

def Settles (files : Files) (env : Environment) (given : Option Text) : Prop :=
  (∃ s, load files env given = .ok s) ∨
    ∃ cause, load files env given = .error (.failure ⟨pathOf given, cause⟩)

theorem settles_iff : Settles files env given ↔ ∀ c, ¬ Breaks files given c := by
  constructor
  · rintro (⟨s, h⟩ | ⟨cause, h⟩) c broken
    · cases h.symm.trans broken.load_eq
    · cases h.symm.trans broken.load_eq
  · intro whole
    cases h : load files env given with
    | ok s => exact .inl ⟨s, h⟩
    | error t =>
      obtain ⟨cause, rfl⟩ | ⟨c, -, broken⟩ := load_eq_error h
      · exact .inr ⟨cause, h⟩
      · cases whole c broken

/-- What keeps loading from its end when documents that are text are read or refused: nothing but
what lies at the path. -/
inductive Obstacle (files : Files) (given : Option Text) : Prop
  | directory (usual : given = none) (found : files usualPath = .directory)
  | tooLong (found : files (pathOf given) = .tooLong)
  | undecodable {bytes : List UInt8} {f : Yaml.Fault} (found : files (pathOf given) = .file bytes)
    (broken : Text.ofBytes? bytes = none)
    (reached : Yaml.read documentDepth bytes = .error (.fault f))

/-- Of the file at the path, if it is text: its document is read, or its grammar is refused. -/
def ReadsText (files : Files) (path : Text) : Prop :=
  ∀ bytes t, files path = .file bytes → Text.ofBytes? bytes = some t →
    ∀ f, Yaml.read documentDepth bytes ≠ .error (.fault f)

theorem obstacle_iff (reads : ReadsText files (pathOf given)) :
    Obstacle files given ↔ ∃ c, Breaks files given c := by
  constructor
  · rintro (⟨usual, found⟩ | ⟨found⟩ | ⟨found, -, reached⟩)
    · exact ⟨_, .directory usual found⟩
    · exact ⟨_, .tooLong found⟩
    · exact ⟨_, .document found reached⟩
  · rintro ⟨_, ⟨usual, found⟩ | ⟨found⟩ | ⟨found, fault⟩⟩
    · exact .directory usual found
    · exact .tooLong found
    · rename_i bytes f
      cases text : Text.ofBytes? bytes with
      | none => exact .undecodable found text fault
      | some t => cases reads bytes t found text f fault

theorem settles_iff_of_readsText (reads : ReadsText files (pathOf given)) :
    Settles files env given ↔ ¬ Obstacle files given := by
  rw [settles_iff, obstacle_iff reads, not_exists]

theorem Obstacle.of_small {bytes : List UInt8} (found : files (pathOf given) = .file bytes)
    (small : bytes.length ≤ Yaml.pieceSize) (broken : Text.ofBytes? bytes = none) :
    Obstacle files given :=
  .undecodable found broken (Yaml.read_of_ofBytes? small broken _)

end IrListing.Settings
