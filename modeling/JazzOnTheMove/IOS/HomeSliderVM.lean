import JazzOnTheMove.IOS.FoundationJson

/-!
# The slider view model

`HomeSliderVM.getDeals` requests a JSON array and retries until a response ends the
request for good. A response handler runs on the main queue, as does the block it
dispatches to hand the list over. This file states the handler and the queue, and what the
loop over the array makes of its elements.
-/

namespace JazzOnTheMove.IOS

/-- `class Slider`. -/
structure Slider where
  id : Option String
  image : Option String
  url : Option String
  deriving DecidableEq, Repr

/-- The slider made from one element of the array; its `url` is read from `name`. -/
def Slider.ofElement (element : Json) : Except Trap Slider := do
  let id ← element.stringForKey "id"
  let image ← element.stringForKey "image"
  let url ← element.stringForKey "name"
  return ⟨id, image, url⟩

/-- One call of `dataCB`. -/
structure SliderCall where
  status : Bool
  deal : List Slider
  message : String
  deriving DecidableEq, Repr

/-- The result of `responseJSON`. -/
inductive JsonResult where
  | success (value : Json)
  | failure

/-- A response; it has no status code if no HTTP response arrived. -/
structure SliderResponse where
  statusCode : Option ℕ
  result : JsonResult

/-- `HomeSliderVM`, with the requests it has issued and the calls its handler received. -/
structure HomeSliderVM where
  /-- Whether the handler `dataCB` is set. -/
  dataCB : Bool
  sliderList : List Slider
  requests : List String
  calls : List SliderCall

/-- A block that the slider's view model has on the main queue. -/
inductive SliderBlock where
  /-- The handler of a request for `url`, with its response. -/
  | completion (url : String) (response : SliderResponse)
  /-- The dispatched hand-over of the list. -/
  | success

namespace HomeSliderVM

/-- A view model as it is created. -/
def fresh : HomeSliderVM := ⟨false, [], [], []⟩

/-- `dataCompletionHandler(callBack:)`. -/
def dataCompletionHandler (vm : HomeSliderVM) : HomeSliderVM := { vm with dataCB := true }

/-- `self.dataCB?(status, self.sliderList, message)`. -/
def callDataCB (vm : HomeSliderVM) (status : Bool) (message : String) : HomeSliderVM :=
  if vm.dataCB then { vm with calls := vm.calls ++ [⟨status, vm.sliderList, message⟩] } else vm

/-- `getDeals(_:)` issues a request. -/
def getDeals (vm : HomeSliderVM) (url : String) : HomeSliderVM :=
  { vm with requests := vm.requests ++ [url] }

/-- One pass of the loop over `sliderArray`. -/
def appendSlider (vm : HomeSliderVM) (element : Json) : Except Trap HomeSliderVM := do
  let slider ← Slider.ofElement element
  return { vm with sliderList := vm.sliderList ++ [slider] }

/-- The response handler of `getDeals(_:)`, with the blocks it dispatches. -/
def completion (vm : HomeSliderVM) (url : String) (response : SliderResponse) :
    Except Trap (HomeSliderVM × List SliderBlock) :=
  let status := response.statusCode
  if status = some 200 then
    match response.result with
    | .success value => do
        let sliderArray ← value.asNSArray
        let vm ← sliderArray.foldlM appendSlider vm
        return (vm, [.success])
    | .failure => .ok (vm.getDeals url, [])
  else if status = some 500 ∨ status = some 502 ∨ status = some 503 ∨ status = some 504 then
    .ok (vm.callDataCB false "Internal Server Error", [])
  else if status = some 503 then
    .ok (vm.callDataCB false "Service Unavailable", [])
  else if status = some 404 then
    .ok (vm.callDataCB false "404 Not Found", [])
  else if status = some 408 then
    .ok (vm.callDataCB false "Request Timeout", [])
  else
    .ok ((vm.getDeals url).callDataCB false "Bad Internet", [])

end HomeSliderVM

/-! ## Sessions -/

/-- A view model at work: its blocks on the main queue and how many of its requests have
been answered. -/
structure SliderSession where
  vm : HomeSliderVM
  queue : List SliderBlock
  answered : ℕ

/-- The next request is answered, or the main queue runs its next block. -/
inductive SliderMove where
  | respond
  | turn
  deriving DecidableEq, Repr

/-- One move, where `responses` answers the successive requests. A request cannot be
answered before it was issued. -/
def SliderSession.step (responses : ℕ → SliderResponse) (s : SliderSession) :
    SliderMove → Except Trap SliderSession
  | .respond =>
      match s.vm.requests[s.answered]? with
      | none => .ok s
      | some url => .ok {
          s with
          queue := s.queue ++ [.completion url (responses s.answered)]
          answered := s.answered + 1 }
  | .turn =>
      match s.queue with
      | [] => .ok s
      | .completion url response :: rest => do
          let (vm, blocks) ← s.vm.completion url response
          return { s with vm := vm, queue := rest ++ blocks }
      | .success :: rest =>
          .ok { s with vm := s.vm.callDataCB true "Suceessful", queue := rest }

/-- A fresh view model with a handler, after one call of `getDeals`. -/
def SliderSession.start (url : String) : SliderSession :=
  ⟨HomeSliderVM.fresh.dataCompletionHandler.getDeals url, [], 0⟩

/-- A finite sequence of moves. -/
def SliderSession.run (responses : ℕ → SliderResponse) (s : SliderSession)
    (moves : List SliderMove) : Except Trap SliderSession :=
  moves.foldlM (SliderSession.step responses) s

/-- Nothing is under way: every request is answered and no block waits. -/
def SliderSession.Idle (s : SliderSession) : Prop :=
  s.queue = [] ∧ s.answered = s.vm.requests.length

end JazzOnTheMove.IOS
