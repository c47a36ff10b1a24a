import JazzOnTheMove.Android.EditProfileActivity
import JazzOnTheMove.Library.LateWrites

/-!
# Which picked image is kept

Every picked image is uploaded on its own, and every upload that completes replaces the
address that the editor keeps and writes it to the database. Saving only writes the
address that is kept. So the image whose upload completes last stays, which need not be
the one that was picked last.
-/

namespace JazzOnTheMove.Android

namespace EditProfileActivity

open LateWrites (jobs unfinished Board lastStart lastFinish)

/-- Picking an image starts a job that its upload finishes. -/
def Event.log : Event → Option (LateWrites.Event Unit)
  | .pick => some (.start ())
  | .uploaded image => some (.finish image)
  | _ => none

/-- The uploads of a run. -/
def uploads (events : List Event) : List (LateWrites.Event Unit) := events.filterMap Event.log

/-- The events of runs without failures: what is under way completes, and inputs reach the
activity while it is not finished. -/
def CanHappen (a : EditProfileActivity) : Event → Prop
  | .editUsername _ | .editBio _ | .save | .pick => a.finished = false
  | .compressed pick => pick ∈ a.compressing
  | .uploaded pick => pick ∈ a.uploading
  | .compressionFailed _ | .uploadFailed _ _ | .writeRejected => False
  | .writeCompleted | .userChecked | .userCheckCancelled => True

instance (a : EditProfileActivity) : (e : Event) → Decidable (a.CanHappen e)
  | .editUsername _ | .editBio _ | .save | .pick =>
      inferInstanceAs (Decidable (a.finished = false))
  | .compressed pick => inferInstanceAs (Decidable (pick ∈ a.compressing))
  | .uploaded pick => inferInstanceAs (Decidable (pick ∈ a.uploading))
  | .compressionFailed _ | .uploadFailed _ _ | .writeRejected => .isFalse id
  | .writeCompleted | .userChecked | .userCheckCancelled => .isTrue trivial

/-- All uploads and writes have completed. -/
def Completed (a : EditProfileActivity) : Prop :=
  a.compressing = [] ∧ a.uploading = [] ∧ a.node.pending = []

/-- The editor keeps an address, and the database has it too. -/
def Keeps (a : EditProfileActivity) (url : DownloadUrl) : Prop :=
  a.mProImgs = url.val ∧ a.storedRecord.map UserRecord.imageurl = some url.val

variable {locale : Locale} {user : FirebaseUser} {downloadUrl : ℕ → DownloadUrl}
  {a b : EditProfileActivity} {events : List Event}

/-- The activity after the events of a run: what it keeps was written by the uploads that
have completed, and what is under way are the others. -/
structure Follows (downloadUrl : ℕ → DownloadUrl) (events : List Event)
    (a : EditProfileActivity) : Prop where
  board : Board (fun pick => (downloadUrl pick).val) (uploads events) fun _ => a.mProImgs
  picks : a.picks = (jobs (uploads events)).length
  underWay : ∀ pick,
    pick ∈ unfinished (uploads events) ↔ pick ∈ a.compressing ∨ pick ∈ a.uploading
  disjoint : ∀ pick ∈ a.compressing, pick ∉ a.uploading
  written : LateWrites.finished (uploads events) ≠ [] →
    ∃ value ∈ a.node.eventual, value.record.imageurl = a.mProImgs

/-- The beginning of a run. -/
theorem follows_onCreate (downloadUrl : ℕ → DownloadUrl) (session : Session)
    (stored : Option UserRecord) : Follows downloadUrl [] (onCreate session stored) where
  board := Board.nil _
  picks := rfl
  underWay pick := by simp [onCreate, uploads, unfinished]
  disjoint pick hpick := absurd hpick List.not_mem_nil
  written hnone := absurd rfl hnone

/-- Between two activities nothing happened to the uploads, and at most what is kept was
written. -/
structure SameUploads (a b : EditProfileActivity) : Prop where
  mProImgs : b.mProImgs = a.mProImgs
  picks : b.picks = a.picks
  underWay : ∀ pick,
    pick ∈ b.compressing ∨ pick ∈ b.uploading ↔ pick ∈ a.compressing ∨ pick ∈ a.uploading
  disjoint : (∀ pick ∈ a.compressing, pick ∉ a.uploading) →
    ∀ pick ∈ b.compressing, pick ∉ b.uploading
  written : b.node.eventual = a.node.eventual ∨
    ∃ value ∈ b.node.eventual, value.record.imageurl = a.mProImgs

/-- Then the activity follows the same events. -/
theorem Follows.sameUploads (h : Follows downloadUrl events a) (hsame : SameUploads a b)
    {e : Event} (he : e.log = none) : Follows downloadUrl (events ++ [e]) b := by
  have huploads : uploads (events ++ [e]) = uploads events := by
    simp [uploads, he]
  refine ⟨?_, ?_, fun pick => ?_, hsame.disjoint h.disjoint, fun hfinished => ?_⟩
  · rw [huploads, hsame.mProImgs]
    exact h.board
  · rw [huploads, hsame.picks, h.picks]
  · rw [huploads, h.underWay, hsame.underWay]
  · rw [huploads] at hfinished
    rw [hsame.mProImgs]
    rcases hsame.written with heventual | hwritten
    · rw [heventual]
      exact h.written hfinished
    · exact hwritten

/-! ## One event -/

/-- A listener leaves the images alone. -/
theorem notify_images (a : EditProfileActivity) (isSuccessful : Bool)
    (value : Option NodeValue) :
    (a.notify isSuccessful value).mProImgs = a.mProImgs ∧
      (a.notify isSuccessful value).picks = a.picks ∧
      (a.notify isSuccessful value).compressing = a.compressing ∧
      (a.notify isSuccessful value).uploading = a.uploading ∧
      (a.notify isSuccessful value).node = a.node := by
  match value with
  | none => exact ⟨rfl, rfl, rfl, rfl, rfl⟩
  | some ⟨_, false⟩ => exact ⟨rfl, rfl, rfl, rfl, rfl⟩
  | some ⟨_, true⟩ => cases isSuccessful <;> exact ⟨rfl, rfl, rfl, rfl, rfl⟩

/-- Nothing happens to the uploads if the images and the node are as before. -/
theorem SameUploads.of_eq (hmProImgs : b.mProImgs = a.mProImgs) (hpicks : b.picks = a.picks)
    (hcompressing : b.compressing = a.compressing) (huploading : b.uploading = a.uploading)
    (hnode : b.node.eventual = a.node.eventual) : SameUploads a b where
  mProImgs := hmProImgs
  picks := hpicks
  underWay pick := by rw [hcompressing, huploading]
  disjoint h := by rwa [hcompressing, huploading]
  written := Or.inl hnode

/-- Saving writes the address that is kept, if it writes anything. -/
theorem sameUploads_onClick (locale : Locale) (user : FirebaseUser) (a : EditProfileActivity) :
    SameUploads a (a.onClick locale user) := by
  unfold onClick
  split_ifs
  · exact .of_eq rfl rfl rfl rfl rfl
  · exact .of_eq rfl rfl rfl rfl rfl
  · exact .of_eq rfl rfl rfl rfl rfl
  · refine ⟨rfl, rfl, fun _ => Iff.rfl, id, Or.inr ?_⟩
    exact ⟨_, DelayedWrites.Register.eventual_write a.node _, rfl⟩

/-- A write that lands changes nothing about the images. -/
theorem sameUploads_finishWrite (a : EditProfileActivity) :
    SameUploads a (a.finishWrite true) := by
  unfold finishWrite
  cases a.node.pending with
  | nil => exact .of_eq rfl rfl rfl rfl rfl
  | cons value rest =>
    obtain ⟨hmProImgs, hpicks, hcompressing, huploading, hnode⟩ :=
      notify_images { a with node := a.node.land } true value
    refine .of_eq hmProImgs hpicks hcompressing huploading ?_
    exact (congrArg _ hnode).trans (DelayedWrites.Register.eventual_land a.node)

/-- A compressed image goes on to be uploaded. -/
theorem sameUploads_compressed {pick : ℕ} (hpick : pick ∈ a.compressing) :
    SameUploads a
      ({ a with compressing := a.compressing.filter (· ≠ pick) }.accept pick) := by
  refine ⟨rfl, rfl, fun other => ?_, fun hdisjoint other hother => ?_, Or.inl rfl⟩
  · change other ∈ a.compressing.filter (· ≠ pick) ∨ other ∈ a.uploading ++ [pick] ↔ _
    by_cases hsame : other = pick
    · simp [hsame, hpick]
    · simp [hsame]
  · change other ∈ a.compressing.filter (· ≠ pick) at hother
    change other ∉ a.uploading ++ [pick]
    simp only [List.mem_filter, decide_eq_true_eq] at hother
    simp [hother.2, hdisjoint other hother.1]

/-- An event that neither picks an image nor completes an upload leaves the uploads alone. -/
theorem sameUploads_step {e : Event} (he : e.log = none) (hcan : a.CanHappen e) :
    SameUploads a (a.step locale user downloadUrl e) := by
  have hkept : SameUploads a a := .of_eq rfl rfl rfl rfl rfl
  cases e with
  | editUsername text | editBio text =>
    simp only [step]
    split_ifs <;> exact .of_eq rfl rfl rfl rfl rfl
  | save =>
    simp only [step]
    split_ifs
    · exact hkept
    · exact sameUploads_onClick locale user a
  | compressed pick =>
    simp only [step, if_pos (show pick ∈ a.compressing from hcan)]
    exact sameUploads_compressed hcan
  | writeCompleted => exact sameUploads_finishWrite a
  | userChecked =>
    simp only [step, onDataChange]
    split_ifs <;> exact .of_eq rfl rfl rfl rfl rfl
  | userCheckCancelled => exact .of_eq rfl rfl rfl rfl rfl
  | pick | uploaded pick => cases he
  | compressionFailed pick | uploadFailed pick message | writeRejected => exact hcan.elim

/-- **Step.** A picked image gets the next number. -/
theorem Follows.pick (h : Follows downloadUrl events a) :
    Follows downloadUrl (events ++ [.pick]) a.onSingleImageSelected := by
  have huploads : uploads (events ++ [.pick]) = uploads events ++ [.start ()] := by
    simp [uploads, Event.log]
  have hfresh : a.picks ∉ a.uploading := by
    intro hmem
    have hold := (h.underWay a.picks).mpr (Or.inr hmem)
    rw [LateWrites.mem_unfinished, h.picks] at hold
    omega
  refine ⟨?_, ?_, fun pick => ?_, fun pick hpick => ?_, ?_⟩
  · rw [huploads]
    exact Board.start h.board fun slot hslot => absurd rfl hslot
  · rw [huploads, LateWrites.jobs_start, List.length_append, ← h.picks]
    rfl
  · rw [huploads, h.board.schedule.mem_unfinished_start, h.underWay, ← h.picks]
    simp [onSingleImageSelected, or_right_comm]
  · rcases List.mem_append.mp hpick with hold | hnew
    · exact h.disjoint pick hold
    · rw [List.mem_singleton.mp hnew]
      exact hfresh
  · rw [huploads, LateWrites.finished_start]
    exact h.written

/-- **Step.** An upload that completes replaces the address, and writes it. -/
theorem Follows.uploaded (h : Follows downloadUrl events a) {pick : ℕ}
    (hpick : pick ∈ a.uploading) :
    Follows downloadUrl (events ++ [.uploaded pick])
      ({ a with uploading := a.uploading.filter (· ≠ pick) }.onUploadComplete locale user
        (downloadUrl pick)) := by
  have huploads : uploads (events ++ [.uploaded pick]) = uploads events ++ [.finish pick] := by
    simp [uploads, Event.log]
  have hunfinished := (h.underWay pick).mpr (Or.inr hpick)
  have hjob : (jobs (uploads events))[pick]? = some () := by
    rw [List.getElem?_eq_getElem (LateWrites.mem_unfinished.mp hunfinished).1]
  refine ⟨?_, ?_, fun other => ?_, fun other hother hmem => ?_, fun _ => ?_⟩
  · rw [huploads]
    refine Board.finish h.board hunfinished fun slot => ?_
    rw [if_pos hjob]
    rfl
  · rw [huploads, LateWrites.jobs_finish]
    exact h.picks
  · rw [huploads, LateWrites.mem_unfinished_finish, h.underWay]
    change _ ↔ other ∈ a.compressing ∨ other ∈ a.uploading.filter (· ≠ pick)
    by_cases hsame : other = pick
    · have hnot : pick ∉ a.compressing := fun hmem => h.disjoint pick hmem hpick
      simp [hsame, hnot]
    · simp [hsame]
  · exact h.disjoint other hother (List.mem_of_mem_filter hmem)
  · exact ⟨_, DelayedWrites.Register.eventual_write a.node _, rfl⟩

/-- **Step.** Every event of a run without failures is followed. -/
theorem Follows.step (h : Follows downloadUrl events a) {e : Event} (hcan : a.CanHappen e) :
    Follows downloadUrl (events ++ [e]) (a.step locale user downloadUrl e) := by
  cases hlog : e.log with
  | none => exact h.sameUploads (sameUploads_step hlog hcan) hlog
  | some job =>
    cases e with
    | pick =>
      have hopen : ¬ a.finished = true := by simp [show a.finished = false from hcan]
      rw [EditProfileActivity.step, if_neg hopen]
      exact h.pick
    | uploaded pick =>
      have hpick : pick ∈ a.uploading := hcan
      rw [EditProfileActivity.step, if_pos hpick]
      exact h.uploaded hpick
    | _ => cases hlog

/-- **Run.** So is every run without failures. -/
theorem follows_run (session : Session) (stored : Option UserRecord)
    (hrun : Runs.Guarded (step locale user downloadUrl) CanHappen (onCreate session stored)
      events) :
    Follows downloadUrl events ((onCreate session stored).run locale user downloadUrl events) := by
  induction events using List.reverseRecOn with
  | nil => exact follows_onCreate downloadUrl session stored
  | append_singleton events e ih =>
    obtain ⟨hbefore, hcan⟩ := Runs.guarded_concat.mp hrun
    rw [run_concat]
    exact (ih hbefore).step hcan

/-- Once everything has completed, what is kept is the image whose upload completed last. -/
theorem Follows.keeps_lastFinish (h : Follows downloadUrl events a) (hcompleted : a.Completed)
    {picked : ℕ} (hpicked : lastStart (uploads events) () = some picked) :
    ∃ last, lastFinish (uploads events) () = some last ∧ a.Keeps (downloadUrl last) := by
  obtain ⟨hcompressing, huploading, hpending⟩ := hcompleted
  have hnone : ∀ pick ∈ unfinished (uploads events), False := by
    intro pick hpick
    have hway := (h.underWay pick).mp hpick
    simp [hcompressing, huploading] at hway
  have hjob := List.mem_of_getElem? (LateWrites.getElem?_of_lastStart hpicked)
  obtain ⟨last, hlast, hkept⟩ :=
    h.board.value_eq_lastFinish hjob fun pick hpick => (hnone pick hpick).elim
  refine ⟨last, hlast, hkept, ?_⟩
  have hsome : LateWrites.finished (uploads events) ≠ [] := by
    intro hempty
    simp [lastFinish, hempty] at hlast
  obtain ⟨value, hvalue, himage⟩ := h.written hsome
  unfold storedRecord
  rw [DelayedWrites.Register.current_of_pending_nil hpending, hvalue]
  exact congrArg some (himage.trans hkept)

/-- **Picked images.** In every run without failures, once all uploads and writes have
completed, the editor and the database keep the image picked last exactly if its upload
completed last, or the one that did has the same address. -/
theorem last_picked_kept_iff (locale : Locale) (user : FirebaseUser)
    (downloadUrl : ℕ → DownloadUrl) (session : Session) (stored : Option UserRecord)
    (events : List Event)
    (hrun : Runs.Guarded (step locale user downloadUrl) CanHappen (onCreate session stored)
      events)
    (hcompleted : ((onCreate session stored).run locale user downloadUrl events).Completed) :
    (∀ picked, lastStart (uploads events) () = some picked →
        ((onCreate session stored).run locale user downloadUrl events).Keeps
          (downloadUrl picked)) ↔
      ∀ picked last, lastStart (uploads events) () = some picked →
        lastFinish (uploads events) () = some last → downloadUrl last = downloadUrl picked := by
  have hfollows := follows_run session stored hrun
  constructor
  · intro h picked last hpicked hlast
    obtain ⟨last', hlast', hkept⟩ := hfollows.keeps_lastFinish hcompleted hpicked
    obtain rfl : last = last' := Option.some.inj (hlast.symm.trans hlast')
    exact Subtype.ext (hkept.1.symm.trans (h picked hpicked).1)
  · intro h picked hpicked
    obtain ⟨last, hlast, hkept⟩ := hfollows.keeps_lastFinish hcompleted hpicked
    rw [← h picked last hpicked hlast]
    exact hkept

/-- The addresses of two images. -/
private def urlOf (pick : ℕ) : DownloadUrl :=
  if pick = 0 then ⟨"https://x/0", by decide⟩ else ⟨"https://x/1", by decide⟩

/-- Two images are picked, and their uploads complete in order. -/
theorem last_picked_kept_in_order :
    ((onCreate ⟨true, true⟩ none).run asciiLocale ⟨"u", none⟩ urlOf
      [.pick, .compressed 0, .pick, .compressed 1, .uploaded 0, .uploaded 1, .writeCompleted,
        .writeCompleted]).Keeps (urlOf 1) := by
  refine (last_picked_kept_iff asciiLocale ⟨"u", none⟩ urlOf ⟨true, true⟩ none _ ?_
    ⟨rfl, rfl, rfl⟩).mpr (fun picked last hpicked hlast => ?_) 1 rfl
  · simp only [Runs.guarded_cons]
    exact ⟨rfl, by decide, rfl, by decide, by decide, by decide, trivial, trivial,
      Runs.guarded_nil⟩
  · obtain rfl : 1 = picked := Option.some.inj hpicked
    obtain rfl : 1 = last := Option.some.inj hlast
    rfl

/-- The upload of the first image completes after that of the second, which was picked last. -/
theorem first_picked_stays :
    let events : List Event :=
      [.pick, .compressed 0, .pick, .compressed 1, .uploaded 1, .uploaded 0, .writeCompleted,
        .writeCompleted]
    let a := (onCreate ⟨true, true⟩ none).run asciiLocale ⟨"u", none⟩ urlOf events
    Runs.Guarded (step asciiLocale ⟨"u", none⟩ urlOf) CanHappen (onCreate ⟨true, true⟩ none)
        events ∧
      a.Completed ∧ lastStart (uploads events) () = some 1 ∧ ¬ a.Keeps (urlOf 1) ∧
        a.Keeps (urlOf 0) := by
  refine ⟨?_, ⟨rfl, rfl, rfl⟩, rfl, fun hkept => ?_, rfl, rfl⟩
  · simp only [Runs.guarded_cons]
    exact ⟨rfl, by decide, rfl, by decide, by decide, by decide, trivial, trivial,
      Runs.guarded_nil⟩
  · exact absurd hkept.1 (by decide)

end EditProfileActivity

end JazzOnTheMove.Android
