import JazzOnTheMove.Android.EditProfileActivity
import JazzOnTheMove.Library.Runs

/-!
# The files of picked images

`FileUtil.from` copies a picked document into the directory for temporary files, under the
name of the document. It creates a temporary file with that name's beginning first, which
takes at least three characters, and then renames it. Its caller catches `IOException`, so
only other exceptions crash the app.
-/

namespace JazzOnTheMove.Android

/-- `DEFAULT_BUFFER_SIZE`. -/
def defaultBufferSize : ℕ := 1024 * 4

/-- The bytes that a call of `read(buffer)` puts at the beginning of the buffer. -/
structure Chunk where
  bytes : List UInt8
  ne_nil : bytes ≠ []
  length_le : bytes.length ≤ defaultBufferSize
  deriving DecidableEq, Repr

/-- What `FileUtil` can throw. -/
inductive FileException where
  | nullPointer
  | illegalArgument
  /-- `SecurityException`, or another unchecked exception that the provider of a document, or
  the system in its place, throws. -/
  | provider
  /-- `IOException` and its subclasses, the only ones that are caught. -/
  | ioException
  deriving DecidableEq, Repr

/-- What `openInputStream(uri)` does. -/
inductive InputStream where
  /-- It throws `FileNotFoundException`. -/
  | notFound
  /-- The provider throws. -/
  | denied
  | null
  /-- It returns a stream, which ends after some reads or fails then. -/
  | opened (reads : List Chunk) (fails : Bool)
  deriving DecidableEq, Repr

/-- The exception that opening ends in, if any. -/
def InputStream.thrown : InputStream → Option FileException
  | .notFound => some .ioException
  | .denied => some .provider
  | _ => none

/-- The bytes that a stream returns before it ends or fails. -/
def InputStream.bytes : InputStream → List UInt8
  | .opened reads _ => reads.flatMap Chunk.bytes
  | _ => []

/-- Whether it fails after that. -/
def InputStream.fails : InputStream → Bool
  | .opened _ fails => fails
  | _ => false

/-- What the query for the display name does. -/
inductive NameQuery where
  /-- The provider throws. -/
  | denied
  /-- There is no cursor, or none with a name; what is thrown when it is read is caught. -/
  | noName
  | named (displayName : String)
  deriving DecidableEq, Repr

/-- The name that the query gives, if it returns. -/
def NameQuery.result : NameQuery → Except FileException (Option String)
  | .denied => .error .provider
  | .noName => .ok none
  | .named displayName => .ok (some displayName)

/-- The address of a picked document, and how the device answers for it. -/
structure PickedUri where
  inputStream : InputStream
  /-- `getScheme()`. -/
  scheme : Option String
  displayName : NameQuery
  /-- `getPath()`. -/
  path : Option String
  /-- The name that is found for the temporary file, if the device can create one of it.
  It cannot if the name is too long, for example, or the disk full. -/
  tempName : Option String
  /-- Whether `FileOutputStream` can open the file. -/
  writable : Bool
  /-- The number of bytes that the disk then has room for. -/
  room : ℕ
  deriving DecidableEq, Repr

/-- The contents of the directory for temporary files. -/
abbrev Files := String → Option (List UInt8)

/-- `lastIndexOf`. -/
def lastIndexOf (c : Char) : List Char → Option ℕ
  | [] => none
  | d :: rest =>
      match lastIndexOf c rest with
      | some i => some (i + 1)
      | none => if d = c then some 0 else none

namespace FileUtil

/-- A method is called on a reference, which can be null. -/
def nonNull {α : Type} : Option α → Except FileException α
  | some a => .ok a
  | none => .error .nullPointer

/-- `splitFileName(fileName)`: the name and its extension. -/
def splitFileName (fileName : String) : String × String :=
  match lastIndexOf '.' fileName.toList with
  | none => (fileName, "")
  | some i =>
      (String.ofList (fileName.toList.take i), String.ofList (fileName.toList.drop i))

/-- What `getFileName` cuts off a path. -/
def lastComponent (path : String) : String :=
  match lastIndexOf '/' path.toList with
  | none => path
  | some cut => String.ofList (path.toList.drop (cut + 1))

/-- `getFileName(context, uri)`. -/
def getFileName (uri : PickedUri) : Except FileException String := do
  let scheme ← nonNull uri.scheme
  let result ← if scheme = "content" then uri.displayName.result else .ok none
  match result with
  | some result => return result
  | none =>
      let result ← nonNull uri.path
      return lastComponent result

/-- A name that a file can have: one without a separator or a null character. -/
def isFileName (name : String) : Bool :=
  name.toList.all fun c => c ≠ '/' && c.toNat ≠ 0

/-- `File.createTempFile(name, extension)`: the file, under a name that begins with the one
and ends in the other and is not in use, and the files then. -/
def createTempFile (files : Files) (tempName : Option String) (name extension : String) :
    Except FileException (String × Files) :=
  if javaLength name < 3 then .error .illegalArgument
  else if isFileName (name ++ extension) then
    match tempName with
    | none => .error .ioException
    | some tempName =>
        if (files tempName).isSome then .error .ioException
        else .ok (tempName, Function.update files tempName (some []))
  else .error .ioException

/-- `rename(file, newName)`. -/
def rename (files : Files) (file newName : String) : Files :=
  if newName = file then files
  else
    -- an old file of that name is deleted
    let files := Function.update files newName none
    Function.update (Function.update files newName (files file)) file none

/-- `copy(input, output)` with what was written and counted so far: what the output then has,
and the count. -/
def copy (fails : Bool) (room : ℕ) : List Chunk → List UInt8 → Option (List UInt8) → ℕ →
    Option (List UInt8) × Except FileException ℕ
  | [], _, output, count => (output, if fails then .error .ioException else .ok count)
  | _ :: _, _, none, _ => (none, .error .nullPointer)
  | chunk :: reads, buffer, some output, count =>
      let n := chunk.bytes.length
      let buffer := chunk.bytes ++ buffer.drop n
      if room < count + n then
        -- the disk is full in the middle of a write
        (some (output ++ buffer.take (room - count)), .error .ioException)
      else copy fails room reads buffer (some (output ++ buffer.take n)) (count + n)

/-- The part of `from` that copies into a file. -/
def copyTo (files : Files) (fileName : String) (uri : PickedUri) :
    Files × Except FileException String :=
  -- opening the file for writing truncates it
  let output := if uri.writable then some [] else none
  let files := if uri.writable then Function.update files fileName output else files
  match uri.inputStream with
  | .opened reads fails =>
      match copy fails uri.room reads (List.replicate defaultBufferSize 0) output 0 with
      | (output, result) =>
          (if uri.writable then Function.update files fileName output else files,
            result.map fun _ => fileName)
  | _ => (files, .ok fileName)

/-- `from(context, uri)`: the files it leaves, and the name of the one it returns. -/
def fromUri (files : Files) (uri : PickedUri) : Files × Except FileException String :=
  match uri.inputStream.thrown with
  | some e => (files, .error e)
  | none =>
      match getFileName uri with
      | .error e => (files, .error e)
      | .ok fileName =>
          let splitName := splitFileName fileName
          match createTempFile files uri.tempName splitName.1 splitName.2 with
          | .error e => (files, .error e)
          | .ok (tempFile, files) => copyTo (rename files tempFile fileName) fileName uri

/-! ## Names -/

variable {files : Files} {uri : PickedUri}

/-- A character without a last index does not occur. -/
theorem lastIndexOf_eq_none {c : Char} {s : List Char} : lastIndexOf c s = none ↔ c ∉ s := by
  induction s with
  | nil => simp [lastIndexOf]
  | cons d s ih =>
    unfold lastIndexOf
    cases hlast : lastIndexOf c s with
    | some i =>
      have hmem : c ∈ s := by
        by_contra hnot
        rw [ih.mpr hnot] at hlast
        cases hlast
      simp [hmem]
    | none => simp [ih.mp hlast, eq_comm]

/-- The last index of a character is where its last occurrence splits the list. -/
theorem lastIndexOf_append {c : Char} (before : List Char) {rest : List Char} (hrest : c ∉ rest) :
    lastIndexOf c (before ++ c :: rest) = some before.length := by
  induction before with
  | nil => simp [lastIndexOf, lastIndexOf_eq_none.mpr hrest]
  | cons d before ih => simp [lastIndexOf, ih]

/-- A list is split at the last index. -/
theorem exists_of_lastIndexOf {c : Char} {s : List Char} {i : ℕ} (h : lastIndexOf c s = some i) :
    ∃ before rest, s = before ++ c :: rest ∧ c ∉ rest ∧ i = before.length := by
  induction s generalizing i with
  | nil => cases h
  | cons d s ih =>
    unfold lastIndexOf at h
    cases hlast : lastIndexOf c s with
    | some j =>
      rw [hlast] at h
      obtain ⟨before, rest, rfl, hrest, rfl⟩ := ih hlast
      exact ⟨d :: before, rest, rfl, hrest, (Option.some.inj h).symm⟩
    | none =>
      rw [hlast] at h
      simp only at h
      split_ifs at h with hsame
      exact ⟨[], s, by rw [hsame, List.nil_append], lastIndexOf_eq_none.mp hlast,
        (Option.some.inj h).symm⟩

/-- What a name has before its last dot; without a dot, that is all of it. -/
def IsStem (name stem : String) : Prop :=
  '.' ∉ name.toList ∧ stem = name ∨
    ∃ rest, name.toList = stem.toList ++ '.' :: rest ∧ '.' ∉ rest

/-- A name is split into its stem and the rest. -/
theorem splitFileName_spec (fileName : String) :
    IsStem fileName (splitFileName fileName).1 ∧
      (splitFileName fileName).1 ++ (splitFileName fileName).2 = fileName := by
  unfold splitFileName
  cases hlast : lastIndexOf '.' fileName.toList with
  | none => exact ⟨Or.inl ⟨lastIndexOf_eq_none.mp hlast, rfl⟩, String.append_empty⟩
  | some i =>
    obtain ⟨before, rest, hname, hrest, rfl⟩ := exists_of_lastIndexOf hlast
    refine ⟨Or.inr ⟨rest, ?_, hrest⟩, ?_⟩
    · simp [hname]
    · rw [← String.ofList_append, List.take_append_drop, String.ofList_toList]

/-- A name has one stem only. -/
theorem splitFileName_of_isStem {name stem : String} (hstem : IsStem name stem) :
    (splitFileName name).1 = stem := by
  unfold splitFileName
  rcases hstem with ⟨hnone, rfl⟩ | ⟨rest, hname, hrest⟩
  · rw [lastIndexOf_eq_none.mpr hnone]
  · rw [hname, lastIndexOf_append _ hrest]
    simp

/-- What a path has after its last separator; without one, that is all of it. -/
def IsLastComponent (path name : String) : Prop :=
  '/' ∉ path.toList ∧ name = path ∨
    ∃ before, path.toList = before ++ '/' :: name.toList ∧ '/' ∉ name.toList

/-- That is what is cut off a path. -/
theorem lastComponent_eq_iff {path name : String} :
    lastComponent path = name ↔ IsLastComponent path name := by
  unfold lastComponent
  constructor
  · rintro rfl
    cases hlast : lastIndexOf '/' path.toList with
    | none => exact Or.inl ⟨lastIndexOf_eq_none.mp hlast, rfl⟩
    | some cut =>
      obtain ⟨before, rest, hpath, hrest, rfl⟩ := exists_of_lastIndexOf hlast
      exact Or.inr ⟨before, by simp [hpath], by simpa [hpath] using hrest⟩
  · rintro (⟨hnone, rfl⟩ | ⟨before, hpath, hname⟩)
    · rw [lastIndexOf_eq_none.mpr hnone]
    · rw [hpath, lastIndexOf_append _ hname]
      simp

/-! ## Copying -/

/-- **Copy.** The loop writes what it reads, however the reads cut it up, as far as there is
room for it. -/
theorem copy_some (fails : Bool) {room count : ℕ} (hcount : count ≤ room) (reads : List Chunk)
    (buffer output : List UInt8) :
    copy fails room reads buffer (some output) count =
      (some (output ++ (reads.flatMap Chunk.bytes).take (room - count)),
        if room < count + (reads.flatMap Chunk.bytes).length ∨ fails = true then
          .error .ioException
        else .ok (count + (reads.flatMap Chunk.bytes).length)) := by
  induction reads generalizing buffer output count with
  | nil => simp [copy, Nat.not_lt.mpr hcount]
  | cons chunk reads ih =>
    unfold copy
    simp only [List.flatMap_cons, List.length_append]
    by_cases hfull : room < count + chunk.bytes.length
    · have hshort : room - count - chunk.bytes.length = 0 := by omega
      have hlater : room < count + (chunk.bytes.length + (reads.flatMap Chunk.bytes).length) := by
        omega
      rw [if_pos hfull, if_pos (Or.inl hlater), List.take_append, List.take_append]
      simp [hshort]
    · have hfits : room - count - chunk.bytes.length = room - (count + chunk.bytes.length) := by
        omega
      have hwhole : chunk.bytes.take (room - count) = chunk.bytes :=
        List.take_of_length_le (by omega)
      rw [if_neg hfull, ih (by omega), List.take_left', List.take_append, hwhole, hfits,
        List.append_assoc, Nat.add_assoc]
      rfl

/-- The renamed temporary file is an empty file of the new name. -/
theorem rename_created {tempName newName : String} (hunused : files tempName = none) :
    rename (Function.update files tempName (some [])) tempName newName =
      Function.update files newName (some []) := by
  unfold rename
  split_ifs with hsame
  · rw [hsame]
  · funext name
    by_cases htemp : name = tempName
    · subst htemp
      simp [Function.update_of_ne (Ne.symm hsame), hunused]
    · by_cases hnew : name = newName
      · subst hnew
        simp [htemp, Function.update_of_ne (Ne.symm htemp)]
      · simp [htemp, hnew]

/-- Copying a document leaves its bytes, as far as there is room, unless the file cannot be
opened: then it throws if there are any. A stream that fails has its exception passed on. -/
theorem copyTo_eq (files : Files) (fileName : String) (uri : PickedUri) :
    copyTo (Function.update files fileName (some [])) fileName uri =
      if uri.writable = false ∧ uri.inputStream.bytes ≠ [] then
        (Function.update files fileName (some []), .error .nullPointer)
      else
        (Function.update files fileName (some (uri.inputStream.bytes.take uri.room)),
          if uri.room < uri.inputStream.bytes.length ∨ uri.inputStream.fails = true then
            .error .ioException
          else .ok fileName) := by
  obtain ⟨inputStream, scheme, displayName, path, tempName, writable, room⟩ := uri
  cases inputStream with
  | notFound | denied | null =>
    cases writable <;> simp [copyTo, InputStream.bytes, InputStream.fails]
  | opened reads fails =>
    cases writable with
    | true =>
      simp only [copyTo, if_true, copy_some fails (Nat.zero_le room), InputStream.bytes,
        InputStream.fails, Nat.zero_add, Nat.sub_zero, List.nil_append, Bool.true_eq_false,
        false_and, if_false, Function.update_idem, apply_ite (Except.map _)]
      rfl
    | false =>
      cases reads with
      | nil => cases fails <;> simp [copyTo, copy, InputStream.bytes, InputStream.fails, Except.map]
      | cons chunk reads =>
        simp [copyTo, copy, InputStream.bytes, Except.map, chunk.ne_nil]

/-! ## Picks -/

/-- The name of a document: the display name of a content, or else the last component of the
path. -/
def NameOf (uri : PickedUri) (name : String) : Prop :=
  uri.scheme = some "content" ∧ uri.displayName = .named name ∨
    uri.scheme ≠ none ∧ (uri.scheme = some "content" → uri.displayName = .noName) ∧
      ∃ path, uri.path = some path ∧ IsLastComponent path name

/-- A document has no name: no scheme, or neither a path nor the display name of a content. -/
def Unnamed (uri : PickedUri) : Prop :=
  uri.scheme = none ∨
    uri.path = none ∧ (uri.scheme = some "content" → uri.displayName = .noName)

/-- The provider of a content does not let the name be queried. -/
def QueryDenied (uri : PickedUri) : Prop :=
  uri.scheme = some "content" ∧ uri.displayName = .denied

/-- What is found is the name of the document. -/
theorem getFileName_eq_ok {name : String} : getFileName uri = .ok name ↔ NameOf uri name := by
  obtain ⟨inputStream, scheme, displayName, path, tempName, writable, room⟩ := uri
  unfold getFileName NameOf
  cases scheme with
  | none => simp [nonNull, bind, Except.bind]
  | some scheme =>
    by_cases hcontent : scheme = "content"
    · cases displayName <;> cases path <;>
        simp [hcontent, nonNull, bind, Except.bind, pure, Except.pure, NameQuery.result,
          lastComponent_eq_iff]
    · cases path <;>
        simp [hcontent, nonNull, bind, Except.bind, pure, Except.pure, lastComponent_eq_iff]

/-- There are two reasons for an exception. -/
theorem getFileName_eq_error {e : FileException} :
    getFileName uri = .error e ↔
      QueryDenied uri ∧ e = .provider ∨ Unnamed uri ∧ e = .nullPointer := by
  obtain ⟨inputStream, scheme, displayName, path, tempName, writable, room⟩ := uri
  unfold getFileName QueryDenied Unnamed
  cases scheme with
  | none => simp [nonNull, bind, Except.bind, eq_comm]
  | some scheme =>
    by_cases hcontent : scheme = "content"
    · cases displayName <;> cases path <;>
        simp [hcontent, nonNull, bind, Except.bind, pure, Except.pure, NameQuery.result, eq_comm]
    · cases path <;> simp [hcontent, nonNull, bind, Except.bind, pure, Except.pure, eq_comm]

/-- The temporary file for a name can be created. -/
def Creatable (files : Files) (uri : PickedUri) (name : String) : Prop :=
  isFileName name = true ∧ ∃ tempName, uri.tempName = some tempName ∧ files tempName = none

/-- A pick throws what opening the document throws. -/
theorem fromUri_of_thrown {e : FileException} (hthrown : uri.inputStream.thrown = some e) :
    fromUri files uri = (files, .error e) := by
  unfold fromUri
  rw [hthrown]

/-- It throws what looking for the name throws. -/
theorem fromUri_of_getFileName {e : FileException} (hthrown : uri.inputStream.thrown = none)
    (hname : getFileName uri = .error e) : fromUri files uri = (files, .error e) := by
  unfold fromUri
  rw [hthrown, hname]

/-- If the temporary file can be created, a pick goes on to copy into an empty file of the
document's name. -/
theorem fromUri_of_creatable {name : String} (hthrown : uri.inputStream.thrown = none)
    (hname : getFileName uri = .ok name) (hlong : ¬ javaLength (splitFileName name).1 < 3)
    (hcreatable : Creatable files uri name) :
    fromUri files uri = copyTo (Function.update files name (some [])) name uri := by
  obtain ⟨hfile, tempName, htempName, hunused⟩ := hcreatable
  have hunused' : ¬ (files tempName).isSome = true := by simp [hunused]
  unfold fromUri createTempFile
  simp only [hthrown, hname, if_neg hlong, (splitFileName_spec name).2, if_pos hfile, htempName,
    if_neg hunused', rename_created hunused]

/-- If it cannot be created, the exception is one that is caught. -/
theorem fromUri_of_not_creatable {name : String} (hthrown : uri.inputStream.thrown = none)
    (hname : getFileName uri = .ok name) (hlong : ¬ javaLength (splitFileName name).1 < 3)
    (hcreatable : ¬ Creatable files uri name) :
    fromUri files uri = (files, .error .ioException) := by
  unfold fromUri createTempFile
  simp only [hthrown, hname, if_neg hlong, (splitFileName_spec name).2]
  by_cases hfile : isFileName name = true
  · rw [if_pos hfile]
    cases htempName : uri.tempName with
    | none => rfl
    | some tempName =>
      have hused : (files tempName).isSome = true := by
        by_contra hunused
        exact hcreatable ⟨hfile, tempName, htempName, Option.not_isSome_iff_eq_none.mp hunused⟩
      simp only [if_pos hused]
  · rw [if_neg hfile]

/-- A name that is too short makes a pick throw. -/
theorem fromUri_of_short {name : String} (hthrown : uri.inputStream.thrown = none)
    (hname : getFileName uri = .ok name) (hshort : javaLength (splitFileName name).1 < 3) :
    fromUri files uri = (files, .error .illegalArgument) := by
  unfold fromUri createTempFile
  simp only [hthrown, hname, if_pos hshort]

/-- A pick that returns leaves the bytes of the document under its name. -/
theorem fromUri_of_ok {name : String} (hok : (fromUri files uri).2 = .ok name) :
    getFileName uri = .ok name ∧
      (fromUri files uri).1 = Function.update files name (some uri.inputStream.bytes) := by
  cases hthrown : uri.inputStream.thrown with
  | some e =>
    rw [fromUri_of_thrown hthrown] at hok
    cases hok
  | none =>
    cases hname : getFileName uri with
    | error e =>
      rw [fromUri_of_getFileName hthrown hname] at hok
      cases hok
    | ok found =>
      by_cases hshort : javaLength (splitFileName found).1 < 3
      · rw [fromUri_of_short hthrown hname hshort] at hok
        cases hok
      · by_cases hcreatable : Creatable files uri found
        · rw [fromUri_of_creatable hthrown hname hshort hcreatable, copyTo_eq] at hok ⊢
          split_ifs at hok ⊢ with hlost hfailed
          obtain rfl := Except.ok.inj hok
          have hroom : uri.inputStream.bytes.length ≤ uri.room := by
            by_contra hfull
            exact hfailed (Or.inl (Nat.lt_of_not_le hfull))
          exact ⟨rfl, by rw [List.take_of_length_le hroom]⟩
        · rw [fromUri_of_not_creatable hthrown hname hshort hcreatable] at hok
          cases hok

/-- The app crashes on a pick: only `IOException` is caught. -/
def Crashes (result : Except FileException String) : Prop :=
  ∃ e, result = .error e ∧ e ≠ .ioException

@[simp] theorem crashes_error (e : FileException) : Crashes (.error e) ↔ e ≠ .ioException := by
  simp [Crashes]

@[simp] theorem not_crashes_ok (name : String) : ¬ Crashes (.ok name) := by
  simp [Crashes]

/-- Only a name that is too short, or a file that cannot be opened for contents, makes the app
crash on a document that can be opened and has a name. -/
theorem crashes_iff_of_name {name : String} (hthrown : uri.inputStream.thrown = none)
    (hname : getFileName uri = .ok name) :
    Crashes (fromUri files uri).2 ↔
      javaLength (splitFileName name).1 < 3 ∨
        Creatable files uri name ∧ uri.writable = false ∧ uri.inputStream.bytes ≠ [] := by
  by_cases hshort : javaLength (splitFileName name).1 < 3
  · rw [fromUri_of_short hthrown hname hshort]
    simp [hshort]
  · by_cases hcreatable : Creatable files uri name
    · rw [fromUri_of_creatable hthrown hname hshort hcreatable, copyTo_eq]
      by_cases hlost : uri.writable = false ∧ uri.inputStream.bytes ≠ []
      · simp [hcreatable, hlost]
      · rw [if_neg hlost]
        simp only [hshort, hcreatable, hlost, false_or, and_false, iff_false]
        split_ifs <;> simp
    · rw [fromUri_of_not_creatable hthrown hname hshort hcreatable]
      simp [hshort, hcreatable]

/-- **Crash.** Picking a document crashes the app exactly if its provider throws, or if it can
be opened and has no name, or one with fewer than three characters before its last dot, or if
the temporary file for the name is created, the document has contents and the file for them
cannot be opened. -/
theorem pick_crashes_iff (files : Files) (uri : PickedUri) :
    Crashes (fromUri files uri).2 ↔
      uri.inputStream = .denied ∨
        uri.inputStream ≠ .notFound ∧
          (QueryDenied uri ∨ Unnamed uri ∨ ∃ name, NameOf uri name ∧
            ((∃ stem, IsStem name stem ∧ javaLength stem < 3) ∨
              Creatable files uri name ∧ uri.writable = false ∧
                uri.inputStream.bytes ≠ [])) := by
  by_cases hnotFound : uri.inputStream = .notFound
  · have hthrown : uri.inputStream.thrown = some .ioException := by rw [hnotFound]; rfl
    rw [fromUri_of_thrown hthrown]
    simp [hnotFound]
  by_cases hdenied : uri.inputStream = .denied
  · have hthrown : uri.inputStream.thrown = some .provider := by rw [hdenied]; rfl
    rw [fromUri_of_thrown hthrown]
    simp [hdenied]
  have hthrown : uri.inputStream.thrown = none := by
    cases hstream : uri.inputStream with
    | notFound => exact absurd hstream hnotFound
    | denied => exact absurd hstream hdenied
    | null | opened reads fails => rfl
  simp only [hdenied, hnotFound, false_or, ne_eq, not_false_eq_true, true_and]
  cases hname : getFileName uri with
  | error e =>
    have hcause := getFileName_eq_error.mp hname
    have hcrashes : Crashes (fromUri files uri).2 := by
      rw [fromUri_of_getFileName hthrown hname]
      rcases hcause with ⟨-, rfl⟩ | ⟨-, rfl⟩ <;> simp
    refine iff_of_true hcrashes ?_
    rcases hcause with ⟨hquery, -⟩ | ⟨hunnamed, -⟩
    · exact Or.inl hquery
    · exact Or.inr (Or.inl hunnamed)
  | ok name =>
    -- a document that has a name has no other one, and no reason to have none
    have hquery : ¬ QueryDenied uri := fun h => by
      have hthrows := getFileName_eq_error.mpr (Or.inl ⟨h, rfl⟩)
      rw [hname] at hthrows
      cases hthrows
    have hunnamed : ¬ Unnamed uri := fun h => by
      have hthrows := getFileName_eq_error.mpr (Or.inr ⟨h, rfl⟩)
      rw [hname] at hthrows
      cases hthrows
    have hstem : javaLength (splitFileName name).1 < 3 ↔
        ∃ stem, IsStem name stem ∧ javaLength stem < 3 := by
      constructor
      · exact fun hshort => ⟨_, (splitFileName_spec name).1, hshort⟩
      · rintro ⟨stem, hstem, hshort⟩
        rwa [splitFileName_of_isStem hstem]
    rw [crashes_iff_of_name hthrown hname, hstem]
    simp only [hquery, hunnamed, false_or, ← getFileName_eq_ok, hname, Except.ok.injEq,
      exists_eq_left']

/-- The files after a pick. -/
def pick (files : Files) (uri : PickedUri) : Files := (fromUri files uri).1

/-- A pick returns a file. -/
def Returns (files : Files) (uri : PickedUri) : Prop :=
  ∃ name, (fromUri files uri).2 = .ok name

/-- The bytes of a document, if it has a name. -/
def bytesNamed (name : String) (uri : PickedUri) : Option (List UInt8) :=
  if (getFileName uri).toOption = some name then some uri.inputStream.bytes else none

/-- **The same name again.** After later picks, the file that a pick returned has the bytes of
its document exactly if the last document picked under the same name, if there is one, has the
same bytes. -/
theorem file_kept_iff {name : String} {later : List PickedUri}
    (hpicked : (fromUri files uri).2 = .ok name)
    (hlater : Runs.Guarded pick Returns (pick files uri) later) :
    later.foldl pick (pick files uri) name = some uri.inputStream.bytes ↔
      Runs.AtLast (bytesNamed name) (fun _ bytes => bytes = uri.inputStream.bytes) later := by
  induction later using List.reverseRecOn with
  | nil =>
    refine iff_of_true ?_ Runs.atLast_nil
    exact (congrFun (fromUri_of_ok hpicked).2 name).trans (Function.update_self ..)
  | append_singleton later other ih =>
    obtain ⟨hbefore, hlast⟩ := Runs.guarded_concat.mp hlater
    obtain ⟨newName, hreturned⟩ := hlast
    obtain ⟨hnewName, hfiles⟩ := fromUri_of_ok hreturned
    rw [List.foldl_concat]
    change (fromUri _ other).1 name = _ ↔ _
    rw [hfiles]
    by_cases hsame : newName = name
    · subst hsame
      have hbytes : bytesNamed newName other = some other.inputStream.bytes :=
        if_pos (by rw [hnewName]; rfl)
      rw [Function.update_self, Runs.atLast_concat_of_some hbytes, Option.some_inj]
    · have hother : bytesNamed name other = none :=
        if_neg (by rw [hnewName]; simpa [Except.toOption] using hsame)
      rw [Function.update_of_ne (Ne.symm hsame), Runs.atLast_concat_of_none hother]
      exact ih hbefore

/-- A document with one byte. -/
def PickedUri.single (path tempName : String) (byte : UInt8) : PickedUri where
  inputStream := .opened [⟨[byte], List.cons_ne_nil _ _, by simp [defaultBufferSize]⟩] false
  scheme := some "file"
  displayName := .noName
  path := some path
  tempName := some tempName
  writable := true
  room := 1

/-- A second picture of the same name takes the place of the first. -/
theorem second_picture_replaces_first :
    let first := PickedUri.single "/a/IMG.jpg" "IMG1.jpg" 1
    let second := PickedUri.single "/b/IMG.jpg" "IMG2.jpg" 2
    [second].foldl pick (pick (fun _ => none) first) "IMG.jpg" ≠ some [1] := by
  intro first second hkept
  have hpicked : (fromUri (fun _ => none) first).2 = .ok "IMG.jpg" := by decide
  have hlater : Runs.Guarded pick Returns (pick (fun _ => none) first) [second] :=
    Runs.guarded_cons.mpr ⟨⟨"IMG.jpg", by decide⟩, Runs.guarded_nil⟩
  have hlast := (file_kept_iff hpicked hlater).mp hkept
  exact absurd (hlast [] second [] [2] rfl (by decide) (by simp)) (by decide)

end FileUtil

end JazzOnTheMove.Android
