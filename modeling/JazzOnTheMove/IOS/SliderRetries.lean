import JazzOnTheMove.IOS.HomeSliderVM
import Mathlib.Algebra.GroupWithZero.Nat

/-!
# The slider retry protocol

A session waits for the next response, handles it, and either waits again or is
done. Each phase fixes the requests issued and the calls made so far, so a whole
session is determined by the position of its first terminal response.
-/

namespace JazzOnTheMove.IOS

/-- The members of a dictionary. -/
def Json.members : Json → List (String × Json)
  | .object members => members
  | _ => []

/-- The elements of an array. -/
def Json.elements : Json → List Json
  | .array elements => elements
  | _ => []

/-- An array of objects. -/
def Json.ObjectArray (value : Json) : Prop :=
  ∃ rows : List (List (String × Json)), value = .array (rows.map .object)

/-- The slider of a dictionary. -/
def Slider.ofMembers (members : List (String × Json)) : Slider where
  id := (members.lookup "id").bind Json.asString
  image := (members.lookup "image").bind Json.asString
  url := (members.lookup "name").bind Json.asString

/-- The sliders of an array of objects. -/
def Json.sliders (value : Json) : List Slider :=
  value.elements.map fun element => Slider.ofMembers element.members

namespace SliderResponse

/-- A body that decodes with status 200 is an array of objects. -/
def WellFormed (r : SliderResponse) : Prop :=
  r.statusCode = some 200 → ∀ value, r.result = .success value → value.ObjectArray

/-- A response with status 200 and a decodable body. -/
def Delivers (r : SliderResponse) : Prop :=
  r.statusCode = some 200 ∧ ∃ value, r.result = .success value

/-- A response with one of the statuses that are reported without a retry. -/
def GivesUp (r : SliderResponse) : Prop :=
  r.statusCode ∈ [some 404, some 408, some 500, some 502, some 503, some 504]

/-- A response after which there is no further request. -/
def Terminal (r : SliderResponse) : Prop := r.Delivers ∨ r.GivesUp

/-- The calls of the handler for a response that is retried. -/
def retryCalls (r : SliderResponse) : List SliderCall :=
  if r.statusCode = some 200 then [] else [⟨false, [], "Bad Internet"⟩]

/-- The call of the handler for a terminal response. -/
def report (r : SliderResponse) : SliderCall :=
  match r.statusCode, r.result with
  | some 200, .success value => ⟨true, value.sliders, "Suceessful"⟩
  | some 404, _ => ⟨false, [], "404 Not Found"⟩
  | some 408, _ => ⟨false, [], "Request Timeout"⟩
  | _, _ => ⟨false, [], "Internal Server Error"⟩

end SliderResponse

/-- The calls of the handler for the first responses of a stream, all retried. -/
def retried (responses : ℕ → SliderResponse) (k : ℕ) : List SliderCall :=
  (List.range k).flatMap fun j => (responses j).retryCalls

/-- One more retried response adds its calls. -/
theorem retried_succ (responses : ℕ → SliderResponse) (k : ℕ) :
    retried responses (k + 1) = retried responses k ++ (responses k).retryCalls := by
  simp [retried, List.range_succ]

/-- A dictionary always gives a slider. -/
theorem Slider.ofElement_object (members : List (String × Json)) :
    Slider.ofElement (.object members) = .ok (Slider.ofMembers members) := by
  simp only [Slider.ofElement, Json.stringForKey_object]
  rfl

namespace HomeSliderVM

/-- The loop over an array of objects appends their sliders in order. -/
theorem foldlM_appendSlider (vm : HomeSliderVM) (rows : List (List (String × Json))) :
    (rows.map Json.object).foldlM appendSlider vm =
      .ok { vm with sliderList := vm.sliderList ++ rows.map Slider.ofMembers } := by
  induction rows generalizing vm with
  | nil =>
    rw [List.map_nil, List.map_nil, List.append_nil]
    rfl
  | cons row rows ih =>
    have hpass : appendSlider vm (.object row) =
        .ok { vm with sliderList := vm.sliderList ++ [Slider.ofMembers row] } := by
      rw [appendSlider, Slider.ofElement_object]
      rfl
    rw [List.map_cons, List.foldlM_cons, hpass]
    refine (ih _).trans ?_
    simp

/-- A delivery extends the list by the array's sliders and dispatches the hand-over. -/
theorem completion_of_delivers (vm : HomeSliderVM) (url : String) {r : SliderResponse}
    (hwell : r.WellFormed) (hdelivers : r.Delivers) :
    vm.completion url r =
      .ok ({ vm with sliderList := vm.sliderList ++ r.report.deal }, [.success]) := by
  obtain ⟨hstatus, value, hvalue⟩ := hdelivers
  obtain ⟨rows, rfl⟩ := hwell hstatus value hvalue
  obtain ⟨statusCode, result⟩ := r
  subst hstatus
  subst hvalue
  have hsliders : (Json.array (rows.map .object)).sliders = rows.map Slider.ofMembers := by
    simp [Json.sliders, Json.elements, Json.members, Function.comp_def]
  simp only [completion, if_pos, Json.asNSArray, SliderResponse.report, hsliders]
  change (List.foldlM appendSlider vm (rows.map Json.object) >>= _) = _
  rw [foldlM_appendSlider]
  rfl

/-- A response that gives up is reported at once. -/
theorem completion_of_givesUp {vm : HomeSliderVM} (hset : vm.dataCB = true)
    (hempty : vm.sliderList = []) (url : String) {r : SliderResponse} (hgives : r.GivesUp) :
    vm.completion url r = .ok ({ vm with calls := vm.calls ++ [r.report] }, []) := by
  obtain ⟨statusCode, result⟩ := r
  simp only [SliderResponse.GivesUp, List.mem_cons, List.not_mem_nil, or_false] at hgives
  rcases hgives with rfl | rfl | rfl | rfl | rfl | rfl <;>
    simp [completion, callDataCB, hset, hempty, SliderResponse.report]

/-- Any other response is followed by a new request. -/
theorem completion_of_retry {vm : HomeSliderVM} (hset : vm.dataCB = true)
    (hempty : vm.sliderList = []) (url : String) {r : SliderResponse} (hretry : ¬ r.Terminal) :
    vm.completion url r =
      .ok ({ vm.getDeals url with calls := vm.calls ++ r.retryCalls }, []) := by
  obtain ⟨statusCode, result⟩ := r
  rw [SliderResponse.Terminal, not_or] at hretry
  obtain ⟨hdelivers, hgives⟩ := hretry
  by_cases hstatus : statusCode = some 200
  · subst hstatus
    cases result with
    | success value => exact absurd ⟨rfl, value, rfl⟩ hdelivers
    | failure => simp [completion, getDeals, SliderResponse.retryCalls]
  · simp only [SliderResponse.GivesUp, List.mem_cons, List.not_mem_nil, or_false, not_or] at hgives
    obtain ⟨h404, h408, h500, h502, h503, h504⟩ := hgives
    simp [completion, callDataCB, getDeals, SliderResponse.retryCalls, hset, hempty, hstatus,
      h404, h408, h500, h502, h503, h504]

end HomeSliderVM

/-! ## Phases of a session -/

/-- The phases of a session. In each of them all earlier responses were retried. -/
inductive SliderPhase (url : String) (responses : ℕ → SliderResponse) : SliderSession → Prop
  /-- Request number `k` is under way. -/
  | waiting (k : ℕ) (hretried : ∀ j < k, ¬ (responses j).Terminal) :
      SliderPhase url responses
        ⟨⟨true, [], List.replicate (k + 1) url, retried responses k⟩, [], k⟩
  /-- Response number `k` waits for its handler. -/
  | responded (k : ℕ) (hretried : ∀ j < k, ¬ (responses j).Terminal) :
      SliderPhase url responses
        ⟨⟨true, [], List.replicate (k + 1) url, retried responses k⟩,
          [.completion url (responses k)], k + 1⟩
  /-- The list of response number `m` waits to be handed over. -/
  | delivered (m : ℕ) (hretried : ∀ j < m, ¬ (responses j).Terminal)
      (hdelivers : (responses m).Delivers) :
      SliderPhase url responses
        ⟨⟨true, (responses m).report.deal, List.replicate (m + 1) url, retried responses m⟩,
          [.success], m + 1⟩
  /-- Response number `m` ended the session. -/
  | done (m : ℕ) (sliderList : List Slider) (hretried : ∀ j < m, ¬ (responses j).Terminal)
      (hterminal : (responses m).Terminal) :
      SliderPhase url responses
        ⟨⟨true, sliderList, List.replicate (m + 1) url,
          retried responses m ++ [(responses m).report]⟩, [], m + 1⟩

variable {url : String} {responses : ℕ → SliderResponse} {s : SliderSession}

/-- A session starts by waiting for its first response. -/
theorem sliderPhase_start (url : String) (responses : ℕ → SliderResponse) :
    SliderPhase url responses (SliderSession.start url) :=
  SliderPhase.waiting 0 fun _ hj => absurd hj (Nat.not_lt_zero _)

/-- The report of a delivery hands over the array's sliders. -/
theorem SliderResponse.report_of_delivers {r : SliderResponse} (hdelivers : r.Delivers) :
    r.report = ⟨true, r.report.deal, "Suceessful"⟩ := by
  obtain ⟨hstatus, value, hvalue⟩ := hdelivers
  simp [SliderResponse.report, hstatus, hvalue]

/-- The handler of a response either retries, or hands over, or is done. -/
theorem SliderPhase.turn_responded (url : String) (hwell : ∀ k, (responses k).WellFormed) {k : ℕ}
    (hretried : ∀ j < k, ¬ (responses j).Terminal) :
    ∃ t, SliderSession.step responses
        ⟨⟨true, [], List.replicate (k + 1) url, retried responses k⟩,
          [.completion url (responses k)], k + 1⟩ .turn = .ok t ∧
      SliderPhase url responses t ∧ t.answered = k + 1 ∧ t.queue ∈ [[], [.success]] ∧
      (¬ (responses k).Terminal → t.queue = []) := by
  simp only [SliderSession.step]
  by_cases hterminal : (responses k).Terminal
  · rcases hterminal with hdelivers | hgives
    · rw [HomeSliderVM.completion_of_delivers _ url (hwell k) hdelivers]
      exact ⟨_, rfl, SliderPhase.delivered k hretried hdelivers, rfl, by simp,
        fun hnot => absurd (Or.inl hdelivers) hnot⟩
    · rw [HomeSliderVM.completion_of_givesUp rfl rfl url hgives]
      exact ⟨_, rfl, SliderPhase.done k [] hretried (Or.inr hgives), rfl, by simp,
        fun hnot => absurd (Or.inr hgives) hnot⟩
  · rw [HomeSliderVM.completion_of_retry rfl rfl url hterminal]
    refine ⟨_, rfl, ?_, rfl, by simp, fun _ => rfl⟩
    have hnext : ∀ j < k + 1, ¬ (responses j).Terminal := by
      intro j hj
      rcases Nat.lt_succ_iff_lt_or_eq.mp hj with hlt | rfl
      · exact hretried j hlt
      · exact hterminal
    have hphase : SliderPhase url responses _ := SliderPhase.waiting (k + 1) hnext
    rw [List.replicate_succ', retried_succ] at hphase
    exact hphase

/-- **Step.** No move traps, and every move leads from a phase to a phase. -/
theorem SliderPhase.step (hwell : ∀ k, (responses k).WellFormed)
    (hs : SliderPhase url responses s) (move : SliderMove) :
    ∃ t, s.step responses move = .ok t ∧ SliderPhase url responses t := by
  cases hs with
  | waiting k hretried =>
    cases move with
    | respond =>
      refine ⟨_, ?_, SliderPhase.responded k hretried⟩
      simp [SliderSession.step]
    | turn => exact ⟨_, rfl, SliderPhase.waiting k hretried⟩
  | responded k hretried =>
    cases move with
    | respond =>
      -- the next request has not been issued yet
      refine ⟨_, ?_, SliderPhase.responded k hretried⟩
      simp [SliderSession.step]
    | turn =>
      obtain ⟨t, ht, hphase, _⟩ := SliderPhase.turn_responded url hwell hretried
      exact ⟨t, ht, hphase⟩
  | delivered m hretried hdelivers =>
    cases move with
    | respond =>
      refine ⟨_, ?_, SliderPhase.delivered m hretried hdelivers⟩
      simp [SliderSession.step]
    | turn =>
      have hphase : SliderPhase url responses _ :=
        SliderPhase.done m (responses m).report.deal hretried (Or.inl hdelivers)
      rw [SliderResponse.report_of_delivers hdelivers] at hphase
      exact ⟨_, rfl, hphase⟩
  | done m sliderList hretried hterminal =>
    cases move with
    | respond =>
      refine ⟨_, ?_, SliderPhase.done m sliderList hretried hterminal⟩
      simp [SliderSession.step]
    | turn => exact ⟨_, rfl, SliderPhase.done m sliderList hretried hterminal⟩

/-- A run starts with its first move. -/
theorem SliderSession.run_cons {s t u : SliderSession} {move : SliderMove}
    {moves : List SliderMove} (ht : s.step responses move = .ok t)
    (hu : t.run responses moves = .ok u) : s.run responses (move :: moves) = .ok u := by
  rw [SliderSession.run, List.foldlM_cons, ht]
  exact hu

/-- **Run.** Every finite sequence of moves leads from a phase to a phase. -/
theorem SliderPhase.run (hwell : ∀ k, (responses k).WellFormed)
    (hs : SliderPhase url responses s) (moves : List SliderMove) :
    ∃ t, s.run responses moves = .ok t ∧ SliderPhase url responses t := by
  induction moves generalizing s with
  | nil => exact ⟨s, rfl, hs⟩
  | cons move moves ih =>
    obtain ⟨t, ht, hphase⟩ := hs.step hwell move
    obtain ⟨u, hu, hend⟩ := ih hphase
    exact ⟨u, SliderSession.run_cons ht hu, hend⟩

/-! ## Outcomes -/

/-- The first terminal response of a stream. -/
def FirstTerminal (responses : ℕ → SliderResponse) (m : ℕ) : Prop :=
  (responses m).Terminal ∧ ∀ j < m, ¬ (responses j).Terminal

/-- The moves a session still needs until response number `m` has been handled. -/
def SliderSession.work (m : ℕ) (s : SliderSession) : ℕ :=
  3 * (m + 1 - s.answered) + (s.queue.map fun
    | .completion _ _ => 2
    | .success => 1).sum

/-- Until a session is idle, one of its moves brings it closer to a terminal response. -/
theorem SliderPhase.progress (hwell : ∀ k, (responses k).WellFormed)
    (hs : SliderPhase url responses s) {m : ℕ} (hm : (responses m).Terminal) :
    s.Idle ∨ ∃ move t, s.step responses move = .ok t ∧ SliderPhase url responses t ∧
      t.work m < s.work m := by
  cases hs with
  | waiting k hretried =>
    have hle : k ≤ m := by
      by_contra hlt
      exact hretried m (by omega) hm
    refine Or.inr ⟨.respond, _, ?_, SliderPhase.responded k hretried, ?_⟩
    · simp [SliderSession.step]
    · simp only [SliderSession.work, List.map_cons, List.map_nil, List.sum_cons, List.sum_nil]
      omega
  | responded k hretried =>
    obtain ⟨t, ht, hphase, hanswered, hqueue, _⟩ :=
      SliderPhase.turn_responded url hwell hretried
    refine Or.inr ⟨.turn, t, ht, hphase, ?_⟩
    simp only [List.mem_cons, List.not_mem_nil, or_false] at hqueue
    rcases hqueue with hqueue | hqueue <;>
      simp [SliderSession.work, hanswered, hqueue]
  | delivered j hretried hdelivers =>
    have hdelivered : SliderPhase url responses _ := SliderPhase.delivered j hretried hdelivers
    obtain ⟨t, ht, hphase⟩ := hdelivered.step hwell .turn
    refine Or.inr ⟨.turn, t, ht, hphase, ?_⟩
    cases ht
    simp [SliderSession.work]
  | done j sliderList hretried hterminal => exact Or.inl ⟨rfl, by simp⟩

/-- A session whose stream has a terminal response can always be brought to its end. -/
theorem SliderPhase.exists_idle (hwell : ∀ k, (responses k).WellFormed)
    (hs : SliderPhase url responses s) {m : ℕ} (hm : (responses m).Terminal) :
    ∃ moves t, s.run responses moves = .ok t ∧ t.Idle := by
  induction hwork : s.work m using Nat.strongRecOn generalizing s with
  | _ work ih =>
    rcases hs.progress hwell hm with hidle | ⟨move, t, ht, hphase, hless⟩
    · exact ⟨[], s, rfl, hidle⟩
    · obtain ⟨moves, u, hu, hidle⟩ := ih (t.work m) (hwork ▸ hless) hphase rfl
      exact ⟨move :: moves, u, SliderSession.run_cons ht hu, hidle⟩

/-- An idle session has ended with its first terminal response. -/
theorem SliderPhase.outcome (hs : SliderPhase url responses s) {m : ℕ}
    (hm : FirstTerminal responses m) (hidle : s.Idle) :
    s.vm.requests = List.replicate (m + 1) url ∧
      s.vm.calls = retried responses m ++ [(responses m).report] := by
  cases hs with
  | waiting k hretried =>
    have hlength := hidle.2
    simp at hlength
  | responded k hretried => cases hidle.1
  | delivered j hretried hdelivers => cases hidle.1
  | done j sliderList hretried hterminal =>
    have hsame : j = m := by
      rcases Nat.lt_trichotomy j m with hlt | heq | hgt
      · exact absurd hterminal (hm.2 j hlt)
      · exact heq
      · exact absurd hm.1 (hretried m hgt)
    subst hsame
    exact ⟨rfl, rfl⟩

/-- Without terminal responses, a session with an empty queue waits for one more. -/
theorem SliderPhase.outcome_of_none (hs : SliderPhase url responses s)
    (hnone : ∀ j, ¬ (responses j).Terminal) (hqueue : s.queue = []) :
    s.vm.requests = List.replicate (s.answered + 1) url ∧
      s.vm.calls = retried responses s.answered := by
  cases hs with
  | waiting k hretried => exact ⟨rfl, rfl⟩
  | responded k hretried => cases hqueue
  | delivered j hretried hdelivers => exact absurd (Or.inl hdelivers) (hnone j)
  | done j sliderList hretried hterminal => exact absurd hterminal (hnone j)

/-- Without terminal responses, one turn of the main queue empties it. -/
theorem SliderPhase.queue_turn_of_none (hwell : ∀ k, (responses k).WellFormed)
    (hs : SliderPhase url responses s) (hnone : ∀ j, ¬ (responses j).Terminal) :
    ∃ t, s.step responses .turn = .ok t ∧ SliderPhase url responses t ∧ t.queue = [] ∧
      t.answered = s.answered := by
  cases hs with
  | waiting k hretried => exact ⟨_, rfl, SliderPhase.waiting k hretried, rfl, rfl⟩
  | responded k hretried =>
    obtain ⟨t, ht, hphase, hanswered, _, hqueue⟩ :=
      SliderPhase.turn_responded url hwell hretried
    exact ⟨t, ht, hphase, hqueue (hnone k), hanswered⟩
  | delivered j hretried hdelivers => exact absurd (Or.inl hdelivers) (hnone j)
  | done j sliderList hretried hterminal => exact absurd hterminal (hnone j)

/-- **Slider retries.** For every stream of responses and every interleaving of their
arrivals with the main queue, no move traps. If response `m` is the first terminal one,
the session can always be brought to its end, and once it is there, `m + 1` requests were
issued and the calls were those of the retried responses followed by the one report of
the terminal response. Without a terminal response, handling each response leaves one
more request under way. -/
theorem slider_retry_protocol (url : String) (responses : ℕ → SliderResponse)
    (hwell : ∀ k, (responses k).WellFormed) (moves : List SliderMove) :
    ∃ s, (SliderSession.start url).run responses moves = .ok s ∧
      (∀ m, FirstTerminal responses m →
        (∃ more t, s.run responses more = .ok t ∧ t.Idle) ∧
        (s.Idle → s.vm.requests = List.replicate (m + 1) url ∧
          s.vm.calls = retried responses m ++ [(responses m).report])) ∧
      ((∀ j, ¬ (responses j).Terminal) →
        ∃ t, s.step responses .turn = .ok t ∧ t.queue = [] ∧ t.answered = s.answered ∧
          t.vm.requests = List.replicate (s.answered + 1) url ∧
          t.vm.calls = retried responses s.answered) := by
  obtain ⟨s, hs, hphase⟩ := (sliderPhase_start url responses).run hwell moves
  refine ⟨s, hs, fun m hm => ⟨hphase.exists_idle hwell hm.1, hphase.outcome hm⟩, fun hnone => ?_⟩
  obtain ⟨t, ht, hend, hqueue, hanswered⟩ := hphase.queue_turn_of_none hwell hnone
  obtain ⟨hrequests, hcalls⟩ := hend.outcome_of_none hnone hqueue
  rw [hanswered] at hrequests hcalls
  exact ⟨t, ht, hqueue, hanswered, hrequests, hcalls⟩

/-- A decode failure, a lost connection and then an array of one slider. -/
def sampleResponses : ℕ → SliderResponse
  | 0 => ⟨some 200, .failure⟩
  | 1 => ⟨none, .failure⟩
  | _ => ⟨some 200, .success (.array [.object [("image", .string "banner")]])⟩

/-- The protocol on a stream whose third response is the first terminal one. -/
theorem slider_retry_sample :
    ∃ s, (SliderSession.start "sliders").run sampleResponses
        [.respond, .turn, .respond, .turn, .respond, .turn, .turn] = .ok s ∧
      s.vm.requests = List.replicate 3 "sliders" ∧
      s.vm.calls = [⟨false, [], "Bad Internet"⟩,
        ⟨true, [⟨none, some "banner", none⟩], "Suceessful"⟩] := by
  have hwell : ∀ k, (sampleResponses k).WellFormed := by
    intro k hstatus value hvalue
    match k with
    | 0 => cases hvalue
    | 1 => cases hvalue
    | _ + 2 =>
      cases hvalue
      exact ⟨[[("image", .string "banner")]], rfl⟩
  have hfirst : FirstTerminal sampleResponses 2 := by
    refine ⟨Or.inl ⟨rfl, _, rfl⟩, fun j hj hterminal => ?_⟩
    match j with
    | 0 =>
      rcases hterminal with ⟨_, value, hvalue⟩ | hgives
      · cases hvalue
      · simp [SliderResponse.GivesUp, sampleResponses] at hgives
    | 1 =>
      rcases hterminal with ⟨_, value, hvalue⟩ | hgives
      · cases hvalue
      · simp [SliderResponse.GivesUp, sampleResponses] at hgives
  obtain ⟨s, hs, houtcome, _⟩ := slider_retry_protocol "sliders" sampleResponses hwell
    [.respond, .turn, .respond, .turn, .respond, .turn, .turn]
  obtain ⟨hrequests, hcalls⟩ := (houtcome 2 hfirst).2 (by
    cases hs
    exact ⟨rfl, rfl⟩)
  exact ⟨s, hs, hrequests, hcalls⟩

end JazzOnTheMove.IOS
