import JazzOnTheMove.Android.EditProfileActivity
import JazzOnTheMove.Library.Runs

/-!
# The records that the profile editor writes

Saving writes what was checked, in lower case. The callback of an upload checks nothing,
and writes the second field as it is, so the records are complete as long as uploads
complete while the fields are filled in that way.
-/

namespace JazzOnTheMove.Android

/-- A record with a username, an email and an image, in lower case. -/
structure UserRecord.Complete (locale : Locale) (record : UserRecord) : Prop where
  username : 3 ≤ javaLength record.username
  email : 3 ≤ javaLength record.email
  imageurl : record.imageurl ≠ ""
  username_lower : locale.toLowerCase record.username = record.username
  email_lower : locale.toLowerCase record.email = record.email

namespace EditProfileActivity

/-- All records written are complete, and so is the one that `checkUser` finds. -/
structure RecordsComplete (locale : Locale) (a : EditProfileActivity) : Prop where
  written : ∀ record ∈ a.written, record.Complete locale
  found : ∀ record ∈ a.localRecord, record.Complete locale

/-- The texts of the fields are fit to be written by an event that writes them. A save that
passes its checks needs texts that stay long enough in lower case; an upload that completes
needs a second field that is long enough and in lower case. -/
def Admits (locale : Locale) (a : EditProfileActivity) : Event → Prop
  | .save =>
      a.finished = false → 3 ≤ javaLength a.mUsername → 3 ≤ javaLength a.mBio →
        a.mProImgs ≠ "" →
          3 ≤ javaLength (locale.toLowerCase a.mUsername) ∧
            3 ≤ javaLength (locale.toLowerCase a.mBio)
  | .uploaded pick =>
      pick ∈ a.uploading →
        3 ≤ javaLength (locale.toLowerCase a.mUsername) ∧ 3 ≤ javaLength a.mBio ∧
          locale.toLowerCase a.mBio = a.mBio
  | _ => True

variable (locale : Locale) (user : FirebaseUser) (downloadUrl : ℕ → DownloadUrl)
  (a : EditProfileActivity)

/-! ## What the events write -/

/-- The record that `sendInfo` writes. -/
def savedRecord : UserRecord where
  id := user.uid
  username := locale.toLowerCase a.mUsername
  email := locale.toLowerCase a.mBio
  phone := user.phoneNumber
  imageurl := a.mProImgs

/-- The record that the callback of an upload writes. -/
def uploadedRecord (downloadUri : DownloadUrl) : UserRecord where
  id := user.uid
  username := locale.toLowerCase a.mUsername
  email := a.mBio
  phone := user.phoneNumber
  imageurl := downloadUri.val

/-- The checks of `onClick`. -/
def Checked : Prop :=
  3 ≤ javaLength a.mUsername ∧ 3 ≤ javaLength a.mBio ∧ a.mProImgs ≠ ""

instance : Decidable a.Checked := inferInstanceAs (Decidable (_ ∧ _ ∧ _))

/-- The write that an event makes. -/
def writeOf : Event → Option NodeValue
  | .save =>
      if a.finished = false ∧ a.Checked then some ⟨a.savedRecord locale user, true⟩ else none
  | .uploaded pick =>
      if pick ∈ a.uploading then some ⟨a.uploadedRecord locale user (downloadUrl pick), false⟩
      else none
  | _ => none

variable {a}

/-- Fields that pass the checks of `onClick` are sent. -/
theorem onClick_of_checked (h : a.Checked) :
    a.onClick locale user = a.sendInfo locale user a.mUsername a.mBio := by
  unfold onClick
  rw [if_neg (Nat.not_lt.mpr h.1), if_neg (Nat.not_lt.mpr h.2.1), if_neg h.2.2]

/-- Otherwise a toast says what is missing. -/
theorem onClick_of_not_checked (h : ¬ a.Checked) :
    ∃ text, a.onClick locale user = a.toast text := by
  unfold onClick
  split_ifs with husername hbio himage
  · exact ⟨_, rfl⟩
  · exact ⟨_, rfl⟩
  · exact ⟨_, rfl⟩
  · exact absurd ⟨Nat.not_lt.mp husername, Nat.not_lt.mp hbio, himage⟩ h

variable (a)

/-- A listener neither writes nor changes the node. -/
theorem notify_node (isSuccessful : Bool) (value : Option NodeValue) :
    (a.notify isSuccessful value).written = a.written ∧
      (a.notify isSuccessful value).node = a.node := by
  match value with
  | none => exact ⟨rfl, rfl⟩
  | some ⟨_, false⟩ => exact ⟨rfl, rfl⟩
  | some ⟨_, true⟩ => cases isSuccessful <;> exact ⟨rfl, rfl⟩

/-- The end of a write only takes it off the node's writes. -/
theorem finishWrite_node (isSuccessful : Bool) :
    (a.finishWrite isSuccessful).written = a.written ∧
      (a.finishWrite isSuccessful).node =
        if isSuccessful then a.node.land else a.node.drop := by
  unfold finishWrite
  cases hpending : a.node.pending with
  | nil =>
    refine ⟨rfl, ?_⟩
    rw [DelayedWrites.Register.land_of_pending_nil hpending,
      DelayedWrites.Register.drop_of_pending_nil hpending, ite_self]
  | cons value rest => exact notify_node _ isSuccessful value

/-- What an event writes is added to the records written, and to the values of the node. -/
structure Writes (value : Option NodeValue) (a b : EditProfileActivity) : Prop where
  written : b.written = a.written ++ (value.map NodeValue.record).toList
  values : ∀ held ∈ b.node.values, held ∈ a.node.values ∨ held ≠ none ∧ held = value

/-- Nothing is written. -/
theorem Writes.none {a b : EditProfileActivity} (hwritten : b.written = a.written)
    (hvalues : b.node.values ⊆ a.node.values) : Writes none a b :=
  ⟨by simp [hwritten], fun _ hheld => Or.inl (hvalues hheld)⟩

/-- A value is written. -/
theorem Writes.some {a b : EditProfileActivity} {value : NodeValue}
    (hwritten : b.written = a.written ++ [value.record]) (hnode : b.node = a.node.write value) :
    Writes value a b := by
  refine ⟨hwritten, fun held hheld => ?_⟩
  rw [hnode, DelayedWrites.Register.mem_values_write] at hheld
  exact hheld.imp_right fun hsame => ⟨by simp [hsame], hsame⟩

/-- **Step.** Every event makes the write that it is said to make. -/
theorem step_writes (e : Event) :
    Writes (a.writeOf locale user downloadUrl e) a (a.step locale user downloadUrl e) := by
  have hsame := List.Subset.refl a.node.values
  cases e with
  | editUsername text | editBio text | pick =>
    simp only [step, writeOf]
    split_ifs <;> exact .none rfl hsame
  | compressed pick | compressionFailed pick | uploadFailed pick message =>
    simp only [step, writeOf]
    split_ifs <;> exact .none rfl hsame
  | save =>
    simp only [step, writeOf]
    cases a.finished with
    | true => exact .none rfl hsame
    | false =>
      rw [if_neg Bool.false_ne_true]
      by_cases hchecked : a.Checked
      · rw [if_pos ⟨rfl, hchecked⟩, onClick_of_checked locale user hchecked]
        exact .some rfl rfl
      · obtain ⟨text, htext⟩ := onClick_of_not_checked locale user hchecked
        rw [if_neg (fun h => hchecked h.2), htext]
        exact .none rfl hsame
  | uploaded pick =>
    simp only [step, writeOf]
    split_ifs
    · exact .some rfl rfl
    · exact .none rfl hsame
  | writeCompleted =>
    obtain ⟨hwritten, hnode⟩ := a.finishWrite_node true
    refine .none hwritten ?_
    rw [step, hnode]
    exact DelayedWrites.Register.values_land_subset a.node
  | writeRejected =>
    obtain ⟨hwritten, hnode⟩ := a.finishWrite_node false
    refine .none hwritten ?_
    rw [step, hnode]
    exact DelayedWrites.Register.values_drop_subset a.node
  | userChecked =>
    simp only [step, writeOf, onDataChange]
    split_ifs <;> exact .none rfl hsame
  | userCheckCancelled => exact .none rfl hsame

/-! ## Complete records -/

variable {locale user downloadUrl a}

/-- What `sendInfo` writes is complete if it stays long enough in lower case. -/
theorem savedRecord_complete_iff (locale : Locale) (user : FirebaseUser) (h : a.Checked) :
    (a.savedRecord locale user).Complete locale ↔
      3 ≤ javaLength (locale.toLowerCase a.mUsername) ∧
        3 ≤ javaLength (locale.toLowerCase a.mBio) :=
  ⟨fun hcomplete => ⟨hcomplete.username, hcomplete.email⟩, fun hlong => ⟨hlong.1, hlong.2, h.2.2,
    locale.toLowerCase_idem _, locale.toLowerCase_idem _⟩⟩

/-- What an upload writes is complete if the fields are. -/
theorem uploadedRecord_complete_iff (downloadUri : DownloadUrl) :
    (a.uploadedRecord locale user downloadUri).Complete locale ↔
      3 ≤ javaLength (locale.toLowerCase a.mUsername) ∧ 3 ≤ javaLength a.mBio ∧
        locale.toLowerCase a.mBio = a.mBio :=
  ⟨fun hcomplete => ⟨hcomplete.username, hcomplete.email, hcomplete.email_lower⟩,
    fun hfields => ⟨hfields.1, hfields.2.1, downloadUri.property, locale.toLowerCase_idem _,
      hfields.2.2⟩⟩

/-- An event is admitted if what it writes is complete. -/
theorem admits_iff (user : FirebaseUser) (downloadUrl : ℕ → DownloadUrl) (e : Event) :
    a.Admits locale e ↔
      ∀ value ∈ a.writeOf locale user downloadUrl e, value.record.Complete locale := by
  cases e with
  | save =>
    simp only [Admits, writeOf]
    by_cases hsaves : a.finished = false ∧ a.Checked
    · rw [if_pos hsaves]
      have hcomplete := savedRecord_complete_iff locale user hsaves.2
      obtain ⟨hfinished, husername, hbio, himage⟩ := hsaves
      simp [hfinished, husername, hbio, himage, hcomplete]
    · rw [if_neg hsaves]
      refine iff_of_true (fun hfinished husername hbio himage => ?_) (by simp)
      exact absurd ⟨hfinished, husername, hbio, himage⟩ hsaves
  | uploaded pick =>
    simp only [Admits, writeOf]
    by_cases hpick : pick ∈ a.uploading
    · simp [hpick, uploadedRecord_complete_iff]
    · simp [hpick]
  | editUsername | editBio | pick | compressed | compressionFailed | uploadFailed |
      writeCompleted | writeRejected | userChecked | userCheckCancelled =>
    simp [Admits, writeOf]

/-- All records written, and all that the node holds or is going to hold, are complete. -/
structure AllComplete (locale : Locale) (a : EditProfileActivity) : Prop where
  written : ∀ record ∈ a.written, record.Complete locale
  values : ∀ value, some value ∈ a.node.values → value.record.Complete locale

/-- Then so is the record that is found. -/
theorem AllComplete.recordsComplete (h : a.AllComplete locale) : a.RecordsComplete locale := by
  refine ⟨h.written, fun record hrecord => ?_⟩
  obtain ⟨value, hvalue, rfl⟩ := Option.map_eq_some_iff.mp hrecord
  refine h.values value ?_
  rw [← hvalue]
  exact DelayedWrites.Register.eventual_mem_values a.node

/-- **Step.** An admitted event keeps everything complete. -/
theorem AllComplete.step (h : a.AllComplete locale) {e : Event} (he : a.Admits locale e) :
    (a.step locale user downloadUrl e).AllComplete locale := by
  obtain ⟨hwritten, hvalues⟩ := a.step_writes locale user downloadUrl e
  have hnew := (admits_iff user downloadUrl e).mp he
  refine ⟨fun record hrecord => ?_, fun value hvalue => ?_⟩
  · rw [hwritten, List.mem_append, Option.mem_toList,
      Option.map_eq_some_iff] at hrecord
    rcases hrecord with hold | ⟨value, hvalue, rfl⟩
    · exact h.written record hold
    · exact hnew value hvalue
  · rcases hvalues _ hvalue with hold | ⟨-, hwrite⟩
    · exact h.values value hold
    · exact hnew value hwrite.symm

/-- No other event leaves the records complete. -/
theorem RecordsComplete.admits {e : Event}
    (h : (a.step locale user downloadUrl e).RecordsComplete locale) : a.Admits locale e := by
  refine (admits_iff user downloadUrl e).mpr fun value hvalue => ?_
  refine h.written value.record ?_
  rw [(a.step_writes locale user downloadUrl e).written, List.mem_append, Option.mem_toList,
    Option.map_eq_some_iff]
  exact Or.inr ⟨value, hvalue, rfl⟩

/-- **Validated profiles.** In every run, all records written so far are complete, and so is
the one that `checkUser` takes as a profile, exactly if the fields are fit to be written
whenever a save passes its checks and whenever an upload completes. -/
theorem records_complete_iff (locale : Locale) (user : FirebaseUser)
    (downloadUrl : ℕ → DownloadUrl) (session : Session) (stored : Option UserRecord)
    (hstored : ∀ record ∈ stored, record.Complete locale) (events : List Event) :
    Runs.AfterEach (step locale user downloadUrl) (fun a _ => a.RecordsComplete locale)
        (onCreate session stored) events ↔
      Runs.Guarded (step locale user downloadUrl) (fun a e => a.Admits locale e)
        (onCreate session stored) events := by
  have hstart : (onCreate session stored).AllComplete locale := by
    refine ⟨by simp [onCreate], fun value hvalue => ?_⟩
    have hnode : stored.map (fun record => NodeValue.mk record false) = some value := by
      simpa [onCreate, DelayedWrites.Register.settled, DelayedWrites.Register.values, eq_comm]
        using hvalue
    obtain ⟨record, hrecord, rfl⟩ := Option.map_eq_some_iff.mp hnode
    exact hstored record hrecord
  refine Runs.afterEach_iff_guarded (fun a e ha => ?_) (fun a e ha hcomplete => ?_) hstart
  · exact ⟨RecordsComplete.admits, fun he => (ha.step he).recordsComplete⟩
  · exact ha.step hcomplete.admits

/-- The fields are filled before an image is uploaded and the profile saved. -/
theorem filled_fields_complete :
    Runs.AfterEach (step asciiLocale ⟨"u", none⟩ fun _ => ⟨"https://x/1", by decide⟩)
      (fun a _ => a.RecordsComplete asciiLocale) (onCreate ⟨true, true⟩ none)
      [.editUsername "Ada", .editBio "ada@x", .pick, .compressed 0, .uploaded 0, .save] := by
  refine (records_complete_iff asciiLocale ⟨"u", none⟩ _ ⟨true, true⟩ none (by simp) _).mpr ?_
  simp only [Runs.guarded_cons]
  refine ⟨trivial, trivial, trivial, trivial, fun _ => ?_, fun _ _ _ _ => ?_, Runs.guarded_nil⟩
  · exact ⟨by decide, by decide, by decide⟩
  · exact ⟨by decide, by decide⟩

/-- An image is picked and uploaded before anything was typed. -/
theorem upload_writes_empty_fields :
    ¬ Runs.AfterEach (step asciiLocale ⟨"u", none⟩ fun _ => ⟨"https://x/1", by decide⟩)
      (fun a _ => a.RecordsComplete asciiLocale) (onCreate ⟨true, true⟩ none)
      [.pick, .compressed 0, .uploaded 0] := by
  intro h
  have hlast := h [.pick, .compressed 0] (.uploaded 0) (List.prefix_refl _)
  have hempty := hlast.written ⟨"u", "", "", none, "https://x/1"⟩ (by decide)
  exact absurd hempty.username (by decide)

end EditProfileActivity

end JazzOnTheMove.Android
