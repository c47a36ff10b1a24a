import JazzOnTheMove.Library.DelayedWrites
import Mathlib.Algebra.GroupWithZero.Nat
import Mathlib.Data.List.Basic

/-!
# The profile editor of the Android app

`EditProfileActivity` has two writers of the record under `users/<uid>`. Saving checks
the text fields and sends them in lower case. A picked image is compressed and uploaded
at once, and the callback of its upload writes the record with what the fields then
hold. Writes reach the database in the order in which they are made.
-/

namespace JazzOnTheMove.Android

open DelayedWrites (Register)

/-- What `String.toLowerCase()` does in the locale of the device. -/
structure Locale where
  toLowerCase : String → String
  toLowerCase_idem : ∀ s, toLowerCase (toLowerCase s) = toLowerCase s

/-- The lower case of a letter is in lower case. -/
private theorem toLower_toLower (c : Char) : c.toLower.toLower = c.toLower := by
  by_cases hupper : c.val ≥ 'A'.val ∧ c.val ≤ 'Z'.val
  · have hlower : c.toLower.val = c.val + ('a'.val - 'A'.val) := by
      unfold Char.toLower
      rw [dif_pos hupper]
    have hbeyond : ¬ (c.toLower.val ≥ 'A'.val ∧ c.toLower.val ≤ 'Z'.val) := by
      rw [hlower]
      obtain ⟨hfirst, hlast⟩ := hupper
      simp only [ge_iff_le, UInt32.le_iff_toNat_le, UInt32.toNat_add] at *
      have hA : 'A'.val.toNat = 65 := rfl
      have hZ : 'Z'.val.toNat = 90 := rfl
      have hshift : ('a'.val - 'A'.val).toNat = 32 := rfl
      omega
    exact dif_neg hbeyond
  · have hsame : c.toLower = c := dif_neg hupper
    rw [hsame, hsame]

/-- Lower case for texts in ASCII. -/
def asciiLocale : Locale where
  toLowerCase s := String.ofList (s.toList.map Char.toLower)
  toLowerCase_idem s := by
    rw [String.toList_ofList, List.map_map]
    exact congrArg String.ofList (List.map_congr_left fun c _ => toLower_toLower c)

/-- `String.length()`, which counts the code units of UTF-16. -/
def javaLength (s : String) : ℕ :=
  (s.toList.map fun c => if c.toNat < 0x10000 then 1 else 2).sum

/-- `FirebaseUser`, as far as it is read. -/
structure FirebaseUser where
  uid : String
  phoneNumber : Option String
  deriving DecidableEq, Repr

/-- The address under which an uploaded image can be downloaded. -/
abbrev DownloadUrl := { s : String // s ≠ "" }

/-- A record under `users/<uid>`. -/
structure UserRecord where
  id : String
  username : String
  email : String
  phone : Option String
  imageurl : String
  deriving DecidableEq, Repr

/-- A value of `users/<uid>`, with whether the write that sets it has a listener. -/
structure NodeValue where
  record : UserRecord
  listener : Bool
  deriving DecidableEq, Repr

/-- The flags of `Session`. -/
structure Session where
  firstTimeLaunch : Bool
  loggedIn : Bool
  deriving DecidableEq, Repr

/-- `ProgressDialog`. -/
structure ProgressDialog where
  message : String
  showing : Bool
  deriving DecidableEq, Repr

/-- The activities that are started from the editor. -/
inductive Destination where
  | mainActivity
  | phoneActivity
  deriving DecidableEq, Repr

/-- `EditProfileActivity`, with what it has under way. Images are numbered in the order in
which they are picked. -/
structure EditProfileActivity where
  mUsername : String
  mBio : String
  mProImgs : String
  /-- The pick whose file is `compressedImage`. -/
  compressedImage : Option ℕ
  /-- The number of images picked. -/
  picks : ℕ
  compressing : List ℕ
  uploading : List ℕ
  progressDialog : ProgressDialog
  session : Session
  /-- The node `users/<uid>`, with the writes that have not reached the database. -/
  node : Register (Option NodeValue)
  /-- The records written by the activity. -/
  written : List UserRecord
  toasts : List String
  started : List Destination
  finished : Bool

namespace EditProfileActivity

/-- The activity when it is created; the database may have a record of the user. -/
def onCreate (session : Session) (stored : Option UserRecord) : EditProfileActivity where
  mUsername := ""
  mBio := ""
  mProImgs := ""
  compressedImage := none
  picks := 0
  compressing := []
  uploading := []
  progressDialog := ⟨"", false⟩
  session := session
  node := Register.settled (stored.map fun record => ⟨record, false⟩)
  written := []
  toasts := []
  started := []
  finished := false

/-- `Toast.makeText` and `Toasty`. -/
def toast (a : EditProfileActivity) (text : String) : EditProfileActivity :=
  { a with toasts := a.toasts ++ [text] }

/-- `showDialog()`. -/
def showDialog (a : EditProfileActivity) : EditProfileActivity :=
  { a with progressDialog := { a.progressDialog with showing := true } }

/-- `hideDialog()`. -/
def hideDialog (a : EditProfileActivity) : EditProfileActivity :=
  { a with progressDialog := { a.progressDialog with showing := false } }

/-- `setValue` and `updateChildren` on `users/<uid>`: the maps have all five children, so
that updating them replaces the record. -/
def write (a : EditProfileActivity) (record : UserRecord) (listener : Bool) :
    EditProfileActivity :=
  { a with
    node := a.node.write (some ⟨record, listener⟩)
    written := a.written ++ [record] }

variable (locale : Locale) (user : FirebaseUser)

/-- `sendInfo(name, bio)`. -/
def sendInfo (a : EditProfileActivity) (name bio : String) : EditProfileActivity :=
  let a := { a with progressDialog := { a.progressDialog with message := "Updating Account..." } }
  a.showDialog.write
    { id := user.uid
      username := locale.toLowerCase name
      email := locale.toLowerCase bio
      phone := user.phoneNumber
      imageurl := a.mProImgs } true

/-- `onClick(v)` of the button. -/
def onClick (a : EditProfileActivity) : EditProfileActivity :=
  if javaLength a.mUsername < 3 then a.toast "Enter Username"
  else if javaLength a.mBio < 3 then a.toast "Enter Bio"
  else if a.mProImgs = "" then a.toast "Attach Profile Image"
  else a.sendInfo locale user a.mUsername a.mBio

/-- `onComplete(task)` of the write in `sendInfo`. -/
def onSaveComplete (a : EditProfileActivity) (isSuccessful : Bool) : EditProfileActivity :=
  if isSuccessful then
    let a := { a.hideDialog with session := ⟨false, false⟩ }.toast "Profile Updated"
    { a with started := a.started ++ [.mainActivity], finished := true }
  else a

/-- `onSingleImageSelected(uri, tag)`: the compressor takes the file. -/
def onSingleImageSelected (a : EditProfileActivity) : EditProfileActivity :=
  { a with picks := a.picks + 1, compressing := a.compressing ++ [a.picks] }

/-- `uploadImage()`. -/
def uploadImage (a : EditProfileActivity) : EditProfileActivity :=
  match a.compressedImage with
  | some pick => { a with uploading := a.uploading ++ [pick] }
  | none => a.toast "No image selected"

/-- `accept(file)` of the compressor, in an activity that is not destroyed. In a destroyed one
the load of the image throws before the upload, and the compressor passes the exception to its
failure handler: such a call is a `compressionFailed`. -/
def accept (a : EditProfileActivity) (pick : ℕ) : EditProfileActivity :=
  { a with compressedImage := some pick }.uploadImage

/-- `onComplete(task)` of an upload that has a download URL. -/
def onUploadComplete (a : EditProfileActivity) (downloadUri : DownloadUrl) :
    EditProfileActivity :=
  let a := { a with mProImgs := downloadUri.val }
  (a.write
    { id := user.uid
      username := locale.toLowerCase a.mUsername
      email := a.mBio
      phone := user.phoneNumber
      imageurl := downloadUri.val } false).toast "Profile Photo Updated"

/-- `onComplete(task)` of an upload that has none, and `onFailure(e)`. -/
def onUploadFailure (a : EditProfileActivity) (message : String) : EditProfileActivity :=
  ((a.hideDialog.toast "Failed").hideDialog).toast message

/-- The record of the user as the activity's queries see it, its own writes included. -/
def localRecord (a : EditProfileActivity) : Option UserRecord :=
  a.node.eventual.map NodeValue.record

/-- The record of the user in the database. -/
def storedRecord (a : EditProfileActivity) : Option UserRecord :=
  a.node.current.map NodeValue.record

/-- `onDataChange(dataSnapshot)` in `checkUser`: the profile is taken as set up if there is
a record with the user's id. -/
def onDataChange (a : EditProfileActivity) : EditProfileActivity :=
  if (a.localRecord.filter fun record => record.id = user.uid).isSome then
    { a with session := ⟨false, false⟩, started := a.started ++ [.mainActivity] }
  else a

/-- `onCancelled(databaseError)` in `checkUser`. -/
def onCancelled (a : EditProfileActivity) : EditProfileActivity :=
  let a := a.toast "SetUp Profile"
  { a with started := a.started ++ [.phoneActivity], finished := true }

/-! ## Runs -/

/-- What happens to the activity. -/
inductive Event where
  | editUsername (text : String)
  | editBio (text : String)
  | save
  | pick
  /-- The compressor is done with an image, or fails. -/
  | compressed (pick : ℕ)
  | compressionFailed (pick : ℕ)
  /-- The upload of an image completes, or fails with a message. -/
  | uploaded (pick : ℕ)
  | uploadFailed (pick : ℕ) (message : String)
  /-- The oldest write reaches the database, or is rejected. -/
  | writeCompleted
  | writeRejected
  /-- A query of `checkUser` is answered, or cancelled. -/
  | userChecked
  | userCheckCancelled
  deriving DecidableEq, Repr

/-- The listener of a write, if it has one, is called when the write is over. -/
def notify (a : EditProfileActivity) (isSuccessful : Bool) :
    Option NodeValue → EditProfileActivity
  | some ⟨_, true⟩ => a.onSaveComplete isSuccessful
  | _ => a

/-- The oldest write is over; it only lands if it was successful. -/
def finishWrite (a : EditProfileActivity) (isSuccessful : Bool) : EditProfileActivity :=
  match a.node.pending with
  | [] => a
  | value :: _ =>
      { a with node := if isSuccessful then a.node.land else a.node.drop }.notify isSuccessful value

variable (downloadUrl : ℕ → DownloadUrl)

/-- One event, where the image of a pick gets a download URL. A finished activity receives
no input, and only what is under way can complete or fail. -/
def step (a : EditProfileActivity) : Event → EditProfileActivity
  | .editUsername text => if a.finished then a else { a with mUsername := text }
  | .editBio text => if a.finished then a else { a with mBio := text }
  | .save => if a.finished then a else a.onClick locale user
  | .pick => if a.finished then a else a.onSingleImageSelected
  | .compressed pick =>
      if pick ∈ a.compressing then
        { a with compressing := a.compressing.filter (· ≠ pick) }.accept pick
      else a
  | .compressionFailed pick =>
      if pick ∈ a.compressing then { a with compressing := a.compressing.filter (· ≠ pick) }
      else a
  | .uploaded pick =>
      if pick ∈ a.uploading then
        { a with uploading := a.uploading.filter (· ≠ pick) }.onUploadComplete locale user
          (downloadUrl pick)
      else a
  | .uploadFailed pick message =>
      if pick ∈ a.uploading then
        { a with uploading := a.uploading.filter (· ≠ pick) }.onUploadFailure message
      else a
  | .writeCompleted => a.finishWrite true
  | .writeRejected => a.finishWrite false
  | .userChecked => a.onDataChange user
  | .userCheckCancelled => a.onCancelled

/-- A finite run. -/
def run (a : EditProfileActivity) (events : List Event) : EditProfileActivity :=
  events.foldl (step locale user downloadUrl) a

/-- One more event in a run. -/
theorem run_concat (a : EditProfileActivity) (events : List Event) (e : Event) :
    a.run locale user downloadUrl (events ++ [e]) =
      (a.run locale user downloadUrl events).step locale user downloadUrl e := by
  simp [run]

end EditProfileActivity

end JazzOnTheMove.Android
