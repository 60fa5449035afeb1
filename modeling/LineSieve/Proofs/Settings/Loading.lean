import LineSieve.Proofs.Record.Streams
import LineSieve.Settings.Load

/-!
# Both ways to load a configuration

A configuration that is located is a file, so it can be read. From there the two ways to load it
differ only in how markup is decoded, line by line or as a whole. They come out alike but for
markup that is not UTF-8, of which each tells in its own way.
-/

namespace LineSieve

open Text.Utf8 (Byte)

variable {fs : FileSystem} {path : Path} {bytes : List Byte}

/-! ### Files -/

/-- The record of the bytes of a configuration in a format, where markup is decoded line by
line. -/
def recordOfLines (format : Format) (bytes : List Byte) : Except RunError Record :=
  match format with
  | .json => (Record.ofJsonBytes bytes).mapError .core
  | .markup => (Record.ofMarkupSource (.ofBytes bytes)).1.mapError .core

namespace FileSystem

theorem exists_of_isFile (h : fs.isFile path = true) :
    ∃ bytes, fs.read path = .ok bytes ∧ fs.isThere path = true := by
  unfold isFile at h
  split at h
  · next place bytes mode hstat =>
    refine ⟨bytes, by rw [read, hstat], ?_⟩
    rw [isThere, hstat]
    rfl
  · cases h

theorem readConfig_of_read (h : fs.isFile path = true) (hread : fs.read path = .ok bytes) :
    fs.readConfig path = recordOfLines (.ofPath path) bytes := by
  obtain ⟨_, -, hthere⟩ := exists_of_isFile h
  simp only [readConfig, readJson, readMarkup, h, hthere, hread, if_true]
  rfl

end FileSystem

namespace Settings

variable {s : Settings}

/-! ### Located configurations -/

theorem isFile_of_firstFile {tried : Path} {paths : List Path}
    (h : firstFile fs tried paths = .ok path) : fs.isFile path = true := by
  induction paths generalizing tried with
  | nil => cases h
  | cons first rest ih =>
    unfold firstFile at h
    split at h
    · next hfile =>
      cases h
      exact hfile
    · exact ih h

theorem isFile_of_locate (h : s.locate fs = .ok path) : fs.isFile path = true :=
  isFile_of_firstFile h

/-- The configuration is located, and it is markup that is not UTF-8. -/
def Undecodable (s : Settings) (fs : FileSystem) (fault : Text.Utf8.Fault) : Prop :=
  ∃ path bytes, s.locate fs = .ok path ∧ Format.ofPath path = .markup ∧
    fs.read path = .ok bytes ∧ Text.Utf8.decode bytes = .error fault

/-! ### Loading -/

theorem load_of_read (hlocate : s.locate fs = .ok path) (hread : fs.read path = .ok bytes) :
    s.load fs = (recordOfLines (.ofPath path) bytes).bind Record.compile := by
  rw [load, hlocate]
  dsimp only
  rw [FileSystem.loadPath, FileSystem.readConfig_of_read (isFile_of_locate hlocate) hread]
  cases recordOfLines (.ofPath path) bytes <;> rfl

theorem loadWhole_of_read (hlocate : s.locate fs = .ok path) (hread : fs.read path = .ok bytes) :
    s.loadWhole fs = (recordOfBytes (.ofPath path) bytes).bind Record.compile := by
  simp only [loadWhole, hlocate, hread]
  cases recordOfBytes (.ofPath path) bytes <;> rfl

theorem recordOfLines_of_decode {text : String} (htext : Text.Utf8.decode bytes = .ok text) :
    recordOfLines .markup bytes = recordOfBytes .markup bytes := by
  have hbytes : (Stream.Source.ofBytes bytes).bytes = bytes := List.flatten_singleton
  have hdecode : Text.Utf8.decode (Stream.Source.ofBytes bytes).bytes = .ok text := by
    rw [hbytes]
    exact htext
  have hmarkup := Record.ofMarkupSource_of_decode (by rfl) hdecode
  simp only [recordOfLines, recordOfBytes, hmarkup, htext]
  rfl

theorem recordOfLines_of_not_decode {fault : Text.Utf8.Fault}
    (hfault : Text.Utf8.decode bytes = .error fault) :
    recordOfLines .markup bytes = .error (.core (.system .invalidLines)) := by
  have hbytes : (Stream.Source.ofBytes bytes).bytes = bytes := List.flatten_singleton
  have hdecode : Text.Utf8.decode (Stream.Source.ofBytes bytes).bytes = .error fault := by
    rw [hbytes]
    exact hfault
  have hmarkup := Record.ofMarkupSource_of_not_decode (by rfl) hdecode
  simp only [recordOfLines, hmarkup]
  rfl

theorem load_of_undecodable {fault : Text.Utf8.Fault} (h : Undecodable s fs fault) :
    s.load fs = .error (.core (.system .invalidLines)) ∧
      s.loadWhole fs = .error (.system (.invalidText fault)) := by
  obtain ⟨path, bytes, hlocate, hformat, hread, hfault⟩ := h
  constructor
  · rw [load_of_read hlocate hread, hformat, recordOfLines_of_not_decode hfault]
    rfl
  · rw [loadWhole_of_read hlocate hread, hformat, recordOfBytes, hfault]
    rfl

theorem load_of_decodable (h : ∀ fault, ¬ Undecodable s fs fault) :
    s.load fs = s.loadWhole fs := by
  cases hlocate : s.locate fs with
  | error e => rw [load, loadWhole, hlocate]
  | ok path =>
    obtain ⟨bytes, hread, -⟩ := FileSystem.exists_of_isFile (isFile_of_locate hlocate)
    rw [load_of_read hlocate hread, loadWhole_of_read hlocate hread]
    cases hformat : Format.ofPath path with
    | json => rfl
    | markup =>
      cases hd : Text.Utf8.decode bytes with
      | error fault => exact absurd ⟨path, bytes, hlocate, hformat, hread, hd⟩ (h fault)
      | ok text => rw [recordOfLines_of_decode hd]

/-- Both ways to load a configuration come out alike, with the same rule set or the same error,
unless it is markup that is not UTF-8: then one reports a line and the other the whole text. Markup
that is UTF-8 gives the same record as a text and as a stream, wherever the chunks of the stream
end. -/
theorem load_agrees (s : Settings) (fs : FileSystem) :
    ((∀ fault, ¬ Undecodable s fs fault) → s.load fs = s.loadWhole fs) ∧
    (∀ fault, Undecodable s fs fault →
      s.load fs = .error (.core (.system .invalidLines)) ∧
        s.loadWhole fs = .error (.system (.invalidText fault))) ∧
    ∀ (source : Stream.Source) (text : String), source.fault = none →
      Text.Utf8.decode source.bytes = .ok text →
      Record.ofMarkupSource source =
        (.ok (Markup.read text), (Markup.readLines (Text.lines text)).2) :=
  ⟨load_of_decodable, fun _ => load_of_undecodable,
    fun _ _ => Record.ofMarkupSource_of_decode⟩

/-- One configuration has lines that end in all ways, with a chunk that ends within a line end, and
the other a byte that is not UTF-8 in its second line. -/
theorem load_agrees_on_returns :
    let text := "type:stringlist\r\nrules:\r\n[\na\rb\r\n\rc\r"
    let mixed := Text.Utf8.encode text
    let broken : List Byte := [97, 58, 49, 10, 255, 10]
    let project (bytes : List Byte) : FileSystem :=
      ⟨[([".vscode"], .directory), ([".vscode", "filterline.txt"], .file bytes 0o644)], []⟩
    (Settings.default.load (project mixed) = Settings.default.loadWhole (project mixed) ∧
      (Settings.default.load (project mixed)).toOption.map Rule.Set.count = some 2 ∧
      (Record.ofMarkupSource ⟨[mixed.take 16, mixed.drop 16], none⟩).1 =
        .ok (Markup.read text)) ∧
    Undecodable .default (project broken) ⟨4, some 1⟩ ∧
      Settings.default.load (project broken) = .error (.core (.system .invalidLines)) ∧
      Settings.default.loadWhole (project broken) =
        .error (.system (.invalidText ⟨4, some 1⟩)) := by
  intro text mixed broken project
  have hlocate : ∀ bytes, Settings.default.locate (project bytes) =
      .ok ⟨"./.vscode/filterline.txt"⟩ := fun _ => rfl
  have hread : ∀ bytes, (project bytes).read ⟨"./.vscode/filterline.txt"⟩ = .ok bytes :=
    fun _ => rfl
  have hmixed : ∀ fault, ¬ Undecodable .default (project mixed) fault := by
    rintro fault ⟨path, bytes, hpath, -, hbytes, hfault⟩
    rw [hlocate, Except.ok.injEq] at hpath
    rw [← hpath, hread, Except.ok.injEq] at hbytes
    rw [← hbytes, Text.Utf8.decode_encode] at hfault
    cases hfault
  have hbroken : Undecodable .default (project broken) ⟨4, some 1⟩ :=
    ⟨_, broken, hlocate broken, rfl, hread broken, rfl⟩
  obtain ⟨hsame, -, -⟩ := load_agrees .default (project mixed)
  obtain ⟨-, hfails, hstreams⟩ := load_agrees .default (project broken)
  have hchunks : (⟨[mixed.take 16, mixed.drop 16], none⟩ : Stream.Source).bytes = mixed := by
    simp [Stream.Source.bytes]
  have hstream := hstreams ⟨[mixed.take 16, mixed.drop 16], none⟩ text rfl
    (by rw [hchunks, Text.Utf8.decode_encode])
  exact ⟨⟨hsame hmixed, by decide +kernel, congrArg Prod.fst hstream⟩, hbroken,
    hfails _ hbroken⟩

end Settings
end LineSieve
