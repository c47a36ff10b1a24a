import JazzOnTheMove.Android.PhoneActivity
import JazzOnTheMove.Library.Runs

/-!
# Dead ends of the phone sign-in

Sending a number disables its form for good, so that from then on the user depends on the
form for the code, which only appears when the code is sent. Until then nothing may fail.
Afterwards only an exception can take the form away.
-/

namespace JazzOnTheMove.Android

namespace PhoneActivity

section

variable {Credential : Type}

/-- Every verification is answered, and no sign-in is under way. -/
def Idle (a : PhoneActivity Credential) : Prop :=
  (∀ verification ∈ a.verifications, verification.codeSent = true) ∧ a.signIns = []

/-- The user can enter a number. -/
structure PhoneForm (a : PhoneActivity Credential) : Prop where
  visible : a.phoneLayoutVisible = true
  phoneText : a.phoneTextEnabled = true
  sendButton : a.sendButtonEnabled = true
  running : a.crashed = false

/-- The user can enter a code. -/
structure CodeForm (a : PhoneActivity Credential) : Prop where
  visible : a.codeLayoutVisible = true
  verifyButton : a.verifyButtonEnabled = true
  mVerificationId : a.mVerificationId ≠ none
  running : a.crashed = false

/-- The user can act. -/
def CanAct (a : PhoneActivity Credential) : Prop :=
  a.PhoneForm ∨ a.CodeForm

/-- The user can act if nothing is under way and the activity has not finished. -/
def NoDeadEnd (a : PhoneActivity Credential) : Prop :=
  a.Idle → a.finished = false → a.CanAct

/-- Nothing fails before the code is sent, and the code that is entered is accepted. -/
def Admits (getCredential : Option String → String → Option Credential)
    (a : PhoneActivity Credential) (e : Event Credential) : Prop :=
  a.CanHappen e →
    match e with
    | .verify code => getCredential a.mVerificationId code ≠ none
    | .verificationFailed _ => a.mVerificationId ≠ none
    | .signInCompleted _ false => a.mVerificationId ≠ none
    | _ => True

variable {a : PhoneActivity Credential} {e : Event Credential}

/-- The user cannot act once a number is sent, unless the code is. -/
theorem not_canAct (hsend : a.sendButtonEnabled = false) (hcode : a.mVerificationId = none) :
    ¬ a.CanAct := by
  rintro (hphone | hform)
  · exact absurd (hsend.symm.trans hphone.sendButton) Bool.false_ne_true
  · exact hform.mVerificationId hcode

/-- A crash is a dead end. -/
theorem not_noDeadEnd_crash (hfinished : a.finished = false) : ¬ a.crash.NoDeadEnd := by
  intro hact
  rcases hact ⟨by simp [crash], rfl⟩ hfinished with hphone | hform
  · exact Bool.false_ne_true hphone.running.symm
  · exact Bool.false_ne_true hform.running.symm

/-- The activity after a verification that was completed without the code. -/
def answeredWithoutCode (fullNumber : String) (credential : Credential) :
    PhoneActivity Credential :=
  { (onCreate : PhoneActivity Credential).sendButtonOnClick fullNumber with
    verifications := []
    signIns := [credential] }

/-- In the beginning, only a number can be sent. -/
theorem eq_of_canHappen_onCreate (hcan : (onCreate : PhoneActivity Credential).CanHappen e) :
    ∃ fullNumber, e = .send fullNumber := by
  cases e with
  | send fullNumber => exact ⟨fullNumber, rfl⟩
  | verify _ => exact absurd hcan.2.2.1 Bool.false_ne_true
  | codeSent _ _ => exact absurd hcan.2.2.1 List.not_mem_nil
  | verificationCompleted _ _ | verificationFailed _ | signInCompleted _ _ =>
    exact absurd hcan.2.2 List.not_mem_nil

/-- Then only its verification can be answered. -/
theorem eq_of_canHappen_sent {fullNumber : String}
    (hcan : ((onCreate : PhoneActivity Credential).sendButtonOnClick fullNumber).CanHappen e) :
    (∃ verificationId, e = .codeSent ⟨"+" ++ fullNumber, false⟩ verificationId) ∨
      (∃ credential, e = .verificationCompleted ⟨"+" ++ fullNumber, false⟩ credential) ∨
        e = .verificationFailed ⟨"+" ++ fullNumber, false⟩ := by
  cases e with
  | send _ => exact absurd hcan.2.2.2 Bool.false_ne_true
  | verify _ => exact absurd hcan.2.2.1 Bool.false_ne_true
  | codeSent verification verificationId =>
    rw [List.mem_singleton.mp hcan.2.2.1]
    exact Or.inl ⟨verificationId, rfl⟩
  | verificationCompleted verification credential =>
    rw [List.mem_singleton.mp hcan.2.2]
    exact Or.inr (Or.inl ⟨credential, rfl⟩)
  | verificationFailed verification =>
    rw [List.mem_singleton.mp hcan.2.2]
    exact Or.inr (Or.inr rfl)
  | signInCompleted _ _ => exact absurd hcan.2.2 List.not_mem_nil

/-- If it is completed without the code, only the sign-in can be complete. -/
theorem eq_of_canHappen_answered {fullNumber : String} {credential : Credential}
    (hcan : (answeredWithoutCode fullNumber credential).CanHappen e) :
    ∃ isSuccessful, e = .signInCompleted credential isSuccessful := by
  cases e with
  | send _ => exact absurd hcan.2.2.2 Bool.false_ne_true
  | verify _ => exact absurd hcan.2.2.1 Bool.false_ne_true
  | codeSent _ _ => exact absurd hcan.2.2.1 List.not_mem_nil
  | verificationCompleted _ _ | verificationFailed _ => exact absurd hcan.2.2 List.not_mem_nil
  | signInCompleted _ isSuccessful =>
    rw [List.mem_singleton.mp hcan.2.2]
    exact ⟨isSuccessful, rfl⟩

/-- The activities that are reached without a dead end. -/
inductive Phase : PhoneActivity Credential → Prop
  | created : Phase onCreate
  | sent (fullNumber : String) : Phase (onCreate.sendButtonOnClick fullNumber)
  | signingIn (fullNumber : String) (credential : Credential) :
    Phase (answeredWithoutCode fullNumber credential)
  | code {a : PhoneActivity Credential} (hform : a.CodeForm) : Phase a
  | finished {a : PhoneActivity Credential} (hfinished : a.finished = true) : Phase a

/-- None of them is a dead end. -/
theorem Phase.noDeadEnd (h : Phase a) : a.NoDeadEnd := by
  intro hidle hfinished
  cases h with
  | created => exact Or.inl ⟨rfl, rfl, rfl, rfl⟩
  | sent fullNumber => exact absurd (hidle.1 _ (List.mem_singleton_self _)) Bool.false_ne_true
  | signingIn fullNumber credential => exact absurd hidle.2 (List.cons_ne_nil _ _)
  | code hform => exact Or.inr hform
  | finished h => exact absurd (hfinished.symm.trans h) Bool.false_ne_true

end

variable {Credential : Type} [DecidableEq Credential]
variable {getCredential : Option String → String → Option Credential}
variable {a : PhoneActivity Credential} {e : Event Credential}

/-- A verification that is completed without the code starts the sign-in. -/
theorem handle_verificationCompleted_sent (fullNumber : String) (credential : Credential) :
    (onCreate.sendButtonOnClick fullNumber).handle getCredential
        (.verificationCompleted ⟨"+" ++ fullNumber, false⟩ credential) =
      answeredWithoutCode fullNumber credential := by
  simp [handle, onVerificationCompleted, signInWithPhoneAuthCredential, sendButtonOnClick,
    answeredWithoutCode, onCreate]

/-- Where the user can enter a code, every admitted event leaves it so, or finishes. -/
theorem CodeForm.handle (h : a.CodeForm) (hcan : a.CanHappen e)
    (hadmits : a.Admits getCredential e) : Phase (a.handle getCredential e) := by
  obtain ⟨hvisible, hverify, hid, hrunning⟩ := h
  cases e with
  | send fullNumber => exact .code ⟨hvisible, hverify, hid, hrunning⟩
  | verify code =>
    obtain ⟨credential, hcredential⟩ := Option.ne_none_iff_exists'.mp (hadmits hcan)
    refine .code ?_
    rw [PhoneActivity.handle, verifyButtonOnClick_of_some hcredential]
    exact ⟨hvisible, hverify, hid, hrunning⟩
  | codeSent verification verificationId =>
    exact .code ⟨rfl, hverify, Option.some_ne_none _, hrunning⟩
  | verificationCompleted verification credential =>
    exact .code ⟨hvisible, hverify, hid, hrunning⟩
  | verificationFailed verification => exact .code ⟨hvisible, hverify, hid, hrunning⟩
  | signInCompleted credential isSuccessful =>
    cases isSuccessful with
    | false => exact .code ⟨hvisible, hverify, hid, hrunning⟩
    | true => exact .finished rfl

/-- **Step.** No admitted event leads out of the phases. -/
theorem Phase.step (h : Phase a) (hadmits : a.Admits getCredential e) :
    Phase (a.step getCredential e) := by
  by_cases hcan : a.CanHappen e
  · rw [PhoneActivity.step, if_pos hcan]
    cases h with
    | created =>
      obtain ⟨fullNumber, rfl⟩ := eq_of_canHappen_onCreate hcan
      exact .sent fullNumber
    | sent fullNumber =>
      rcases eq_of_canHappen_sent hcan with ⟨verificationId, rfl⟩ | ⟨credential, rfl⟩ | rfl
      · exact .code ⟨rfl, rfl, Option.some_ne_none _, rfl⟩
      · rw [handle_verificationCompleted_sent]
        exact .signingIn fullNumber credential
      · exact absurd rfl (hadmits hcan)
    | signingIn fullNumber credential =>
      obtain ⟨isSuccessful, rfl⟩ := eq_of_canHappen_answered hcan
      cases isSuccessful with
      | false => exact absurd rfl (hadmits hcan)
      | true => exact .finished rfl
    | code hform => exact hform.handle hcan hadmits
    | finished hfinished => exact absurd (hcan.1.symm.trans hfinished) Bool.false_ne_true
  · rw [PhoneActivity.step, if_neg hcan]
    exact h

/-- What fails before the code is sent leads to a dead end. -/
theorem Phase.code_of_failed (h : Phase a) (hcan : a.CanHappen e)
    (hfails : (∃ verification, e = .verificationFailed verification) ∨
      ∃ credential, e = .signInCompleted credential false)
    (hact : (a.handle getCredential e).NoDeadEnd) : a.mVerificationId ≠ none := by
  cases h with
  | created =>
    obtain ⟨fullNumber, rfl⟩ := eq_of_canHappen_onCreate hcan
    simp at hfails
  | sent fullNumber =>
    rcases eq_of_canHappen_sent hcan with ⟨verificationId, rfl⟩ | ⟨credential, rfl⟩ | rfl
    · simp at hfails
    · simp at hfails
    · refine absurd (hact ⟨?_, rfl⟩ rfl) (not_canAct rfl rfl)
      simp [handle, onVerificationFailed, toast, sendButtonOnClick, onCreate]
  | signingIn fullNumber credential =>
    obtain ⟨isSuccessful, rfl⟩ := eq_of_canHappen_answered hcan
    obtain rfl : isSuccessful = false := by simpa using hfails
    refine absurd (hact ⟨fun _ hmem => absurd hmem List.not_mem_nil, ?_⟩ rfl)
      (not_canAct rfl rfl)
    simp [handle, onComplete, toast, answeredWithoutCode]
  | code hform => exact hform.mVerificationId
  | finished hfinished => exact absurd (hcan.1.symm.trans hfinished) Bool.false_ne_true

/-- So does a code that is not accepted, and no other event. -/
theorem Phase.admits (h : Phase a) (hact : (a.step getCredential e).NoDeadEnd) :
    a.Admits getCredential e := by
  intro hcan
  rw [PhoneActivity.step, if_pos hcan] at hact
  cases e with
  | send _ | codeSent _ _ | verificationCompleted _ _ => trivial
  | verify code =>
    intro hthrows
    have hfinished : { a with codeBarVisible := true }.finished = false := hcan.1
    rw [handle, verifyButtonOnClick_of_none hthrows] at hact
    exact not_noDeadEnd_crash hfinished hact
  | verificationFailed verification => exact h.code_of_failed hcan (Or.inl ⟨_, rfl⟩) hact
  | signInCompleted credential isSuccessful =>
    cases isSuccessful with
    | true => trivial
    | false => exact h.code_of_failed hcan (Or.inr ⟨_, rfl⟩) hact

/-- **No dead ends.** In every state of a run in which nothing is under way and the activity
has not finished the user can act, exactly if no verification and no sign-in fails before the
code is sent, and every code that is entered gives a credential. -/
theorem no_dead_end_iff (getCredential : Option String → String → Option Credential)
    (events : List (Event Credential)) :
    Runs.Throughout (step getCredential) NoDeadEnd onCreate events ↔
      Runs.Guarded (step getCredential) (Admits getCredential) onCreate events :=
  Runs.throughout_iff_guarded (fun _ h => h.noDeadEnd) (fun _ _ h he => h.step he)
    (fun _ _ h hact => h.admits hact) Phase.created

/-- The verification of a number fails. -/
theorem failed_verification_dead_end :
    ¬ Runs.Throughout
      (step fun verificationId code => verificationId.map fun verificationId =>
        (verificationId, code))
      NoDeadEnd onCreate
      [.send "256", .verificationFailed ⟨"+256", false⟩] := by
  intro h
  refine not_canAct rfl rfl (h _ (List.prefix_refl _) ⟨?_, rfl⟩ rfl)
  decide

end PhoneActivity

end JazzOnTheMove.Android
