import Mathlib.Data.List.Basic

/-!
# The phone sign-in of the Android app

`PhoneActivity` has Firebase verify a phone number. When the code is sent, the form for the
code replaces the one for the number, and the user signs in with the code. Firebase may also
complete the verification by itself, which signs in without the code, or report that it
failed.
-/

namespace JazzOnTheMove.Android

/-- The verification of a phone number, which is answered once the code is sent. -/
structure Verification where
  phoneNumber : String
  codeSent : Bool
  deriving DecidableEq, Repr

/-- `PhoneActivity`, with what Firebase has under way for it. -/
structure PhoneActivity (Credential : Type) where
  /-- Whether the views are `VISIBLE`. -/
  phoneLayoutVisible : Bool
  codeLayoutVisible : Bool
  phoneBarVisible : Bool
  codeBarVisible : Bool
  /-- Whether the inputs are enabled. -/
  phoneTextEnabled : Bool
  sendButtonEnabled : Bool
  verifyButtonEnabled : Bool
  mVerificationId : Option String
  toasts : List String
  /-- Whether `EditProfileActivity` was started. -/
  loggedIn : Bool
  finished : Bool
  /-- Whether an exception has ended the app. -/
  crashed : Bool
  /-- The verifications that may still be completed or fail. -/
  verifications : List Verification
  /-- The credentials with which a sign-in is under way. -/
  signIns : List Credential
  deriving DecidableEq

namespace PhoneActivity

variable {Credential : Type}

/-- The activity when it is created, with the views as in its layout. -/
def onCreate : PhoneActivity Credential where
  phoneLayoutVisible := true
  codeLayoutVisible := false
  phoneBarVisible := false
  codeBarVisible := false
  phoneTextEnabled := true
  sendButtonEnabled := true
  verifyButtonEnabled := true
  mVerificationId := none
  toasts := []
  loggedIn := false
  finished := false
  crashed := false
  verifications := []
  signIns := []

/-- `Toast.makeText`. -/
def toast (a : PhoneActivity Credential) (text : String) : PhoneActivity Credential :=
  { a with toasts := a.toasts ++ [text] }

/-- An exception ends the app, and what is under way for it. -/
def crash (a : PhoneActivity Credential) : PhoneActivity Credential :=
  { a with crashed := true, verifications := [], signIns := [] }

/-- `signInWithPhoneAuthCredential(credential)`. -/
def signInWithPhoneAuthCredential (a : PhoneActivity Credential) (credential : Credential) :
    PhoneActivity Credential :=
  { a with signIns := a.signIns ++ [credential] }

/-- `onComplete(task)` of a sign-in. -/
def onComplete (a : PhoneActivity Credential) (isSuccessful : Bool) : PhoneActivity Credential :=
  if isSuccessful then { a with loggedIn := true, finished := true } else a.toast "error"

/-- `onClick(view)` of `sendButton`, where the country code picker has the number. -/
def sendButtonOnClick (a : PhoneActivity Credential) (fullNumber : String) :
    PhoneActivity Credential :=
  { a with
    phoneBarVisible := true
    phoneTextEnabled := false
    sendButtonEnabled := false
    verifications := a.verifications ++ [⟨"+" ++ fullNumber, false⟩] }

/-- `onVerificationCompleted(phoneAuthCredential)`. -/
def onVerificationCompleted (a : PhoneActivity Credential) (phoneAuthCredential : Credential) :
    PhoneActivity Credential :=
  a.signInWithPhoneAuthCredential phoneAuthCredential

/-- `onVerificationFailed(e)`. -/
def onVerificationFailed (a : PhoneActivity Credential) : PhoneActivity Credential :=
  a.toast "error in verification"

/-- `onCodeSent(verificationId, token)`. -/
def onCodeSent (a : PhoneActivity Credential) (verificationId : String) :
    PhoneActivity Credential :=
  { a with
    mVerificationId := some verificationId
    phoneLayoutVisible := false
    codeLayoutVisible := true }

/-- What happens to the activity. -/
inductive Event (Credential : Type) where
  /-- A click on `sendButton`. -/
  | send (fullNumber : String)
  /-- A click on `verifyButton`, where `smsCode` has the code. -/
  | verify (code : String)
  /-- Firebase has sent the code, completed a verification or failed to. -/
  | codeSent (verification : Verification) (verificationId : String)
  | verificationCompleted (verification : Verification) (phoneAuthCredential : Credential)
  | verificationFailed (verification : Verification)
  /-- A sign-in is complete. -/
  | signInCompleted (credential : Credential) (isSuccessful : Bool)
  deriving DecidableEq

/-- Only visible and enabled buttons can be clicked, and only what is under way can be
answered. Nothing happens to a finished activity, to which all callbacks are bound. -/
def CanHappen (a : PhoneActivity Credential) (e : Event Credential) : Prop :=
  a.finished = false ∧ a.crashed = false ∧
    match e with
    | .send _ => a.phoneLayoutVisible = true ∧ a.sendButtonEnabled = true
    | .verify _ => a.codeLayoutVisible = true ∧ a.verifyButtonEnabled = true
    | .codeSent verification _ => verification ∈ a.verifications ∧ verification.codeSent = false
    | .verificationCompleted verification _ => verification ∈ a.verifications
    | .verificationFailed verification => verification ∈ a.verifications
    | .signInCompleted credential _ => credential ∈ a.signIns

variable (getCredential : Option String → String → Option Credential)

/-- `onClick(view)` of `verifyButton`, where `PhoneAuthProvider.getCredential` may throw. -/
def verifyButtonOnClick (a : PhoneActivity Credential) (code : String) :
    PhoneActivity Credential :=
  let a := { a with codeBarVisible := true }
  match getCredential a.mVerificationId code with
  | none => a.crash
  | some credential => a.signInWithPhoneAuthCredential credential

variable {getCredential}

/-- A code that gives a credential signs in with it. -/
theorem verifyButtonOnClick_of_some {a : PhoneActivity Credential} {code : String}
    {credential : Credential}
    (hcredential : getCredential a.mVerificationId code = some credential) :
    a.verifyButtonOnClick getCredential code =
      { a with codeBarVisible := true }.signInWithPhoneAuthCredential credential := by
  simp only [verifyButtonOnClick, hcredential]

/-- Any other code crashes the app. -/
theorem verifyButtonOnClick_of_none {a : PhoneActivity Credential} {code : String}
    (hthrows : getCredential a.mVerificationId code = none) :
    a.verifyButtonOnClick getCredential code = { a with codeBarVisible := true }.crash := by
  simp only [verifyButtonOnClick, hthrows]

variable (getCredential) [DecidableEq Credential]

instance (a : PhoneActivity Credential) (e : Event Credential) : Decidable (a.CanHappen e) :=
  match e with
  | .send _ | .verify _ | .codeSent _ _ | .verificationCompleted _ _ | .verificationFailed _ |
    .signInCompleted _ _ => inferInstanceAs (Decidable (_ ∧ _ ∧ _))

/-- What the activity does when an event happens. -/
def handle (a : PhoneActivity Credential) : Event Credential → PhoneActivity Credential
  | .send fullNumber => a.sendButtonOnClick fullNumber
  | .verify code => a.verifyButtonOnClick getCredential code
  | .codeSent verification verificationId =>
      { a with
        verifications :=
          a.verifications.erase verification ++
            [{ verification with codeSent := true }] }.onCodeSent verificationId
  | .verificationCompleted verification phoneAuthCredential =>
      { a with
        verifications := a.verifications.erase verification }.onVerificationCompleted
          phoneAuthCredential
  | .verificationFailed verification =>
      { a with verifications := a.verifications.erase verification }.onVerificationFailed
  | .signInCompleted credential isSuccessful =>
      { a with signIns := a.signIns.erase credential }.onComplete isSuccessful

/-- One event. -/
def step (a : PhoneActivity Credential) (e : Event Credential) : PhoneActivity Credential :=
  if a.CanHappen e then a.handle getCredential e else a

end PhoneActivity

end JazzOnTheMove.Android
