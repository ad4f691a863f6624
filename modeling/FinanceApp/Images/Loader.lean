import FinanceApp.Lib.Machine
import FinanceApp.Models
import Mathlib.Logic.Function.Basic

/-!
# The images of the cells

The adapters give the image view of a cell a local image, or ask Kingfisher for one of the
web. The image view is on the main thread, the downloads are on the queue of their session
and the files on the queue of the cache. All options have their defaults. A file has the MD5
of its key as name: no two keys are taken to have the same.
-/

namespace FinanceApp

/-- By its absolute string, which is also its key in the caches. -/
abbrev URL := String

/-- An image of the web is known by where it was and what was there. -/
inductive Picture where
  | remote (url : URL) (body : Nat)
  | localImage (name : String)
  deriving DecidableEq, Repr

/-- What an adapter does with the image view of its cell. -/
inductive CellImage where
  | setImage (urlString : String)
  | image (localImage : Option String)
  deriving DecidableEq, Repr

/-! ## The adapters -/

def TransactionsRowAdapter.cellImage (imageURL : String) : CellImage :=
  if imageURL.length = 0 then .image (some "storefront-icon") else .setImage imageURL

def ATCImageRowAdapter.cellImage (viewModel : ATCImage) (localImage : Option String) : CellImage :=
  match viewModel.urlString with
  | some url => .setImage url
  | none => .image localImage

def FinanceAssetRowAdapter.cellImage (logoURL : String) : CellImage := .setImage logoURL

def FinanceAccountRowAdapter.cellImage (logoURL : String) : CellImage := .setImage logoURL

def FinanceInstitutionRowAdapter.cellImage (imageUrl : String) : CellImage := .setImage imageUrl

def ExpenseCategoryRowAdapter.cellImage (logoURL : String) : CellImage := .setImage logoURL

def ATCStoryCollectionViewCell.cellImage (imageURLString : String) : CellImage :=
  .setImage imageURLString

/-! ## The state of Kingfisher -/

/-- What the completion handler of `setImage` has captured. -/
structure ImageRequest where
  view : Nat
  url : URL
  issuedIdentifier : Nat
  deriving DecidableEq, Repr

/-- The callbacks stand in the order of their tokens. `isDone` is whether the task has called
`onTaskDone`, with the callbacks it had. -/
structure SessionDataTask where
  url : URL
  callbacks : List ImageRequest
  isDone : Bool := false
  deriving DecidableEq, Repr

/-- A result for a completion handler, on its way to the main thread. What was downloaded goes
into the caches first. -/
structure ImageResult where
  request : ImageRequest
  image : Option Picture
  downloaded : Bool
  deriving DecidableEq, Repr

inductive IOJob where
  | retrieve (request : ImageRequest)
  | store (url : URL) (image : Picture)
  deriving DecidableEq, Repr

/-- Where the main thread is in `setImage`. Other threads run between its steps. -/
inductive MainThread where
  | idle
  | retrieveImage (request : ImageRequest) (cached : Bool)
  | downloadImage (request : ImageRequest) (existingTask : Option Nat)
  deriving DecidableEq, Repr

/-- `cellImage` is what the cell was last configured with. -/
structure ImageView where
  image : Option Picture := none
  taskIdentifier : Option Nat := none
  cellImage : Option CellImage := none
  deriving DecidableEq, Repr

/-- Session tasks are known by their place, and `tasks` are those that can still be joined.
`completing` is the one that was removed from them and not done yet, with its image. -/
structure ImageLoader where
  views : Nat → ImageView := fun _ => {}
  currentIdentifier : Nat := 0
  memoryStorage : URL → Option Picture := fun _ => none
  diskStorage : URL → Option Picture
  sessionTasks : List SessionDataTask := []
  tasks : URL → Option Nat := fun _ => none
  completing : Option (Nat × Option Picture) := none
  ioQueue : List IOJob := []
  results : List ImageResult := []
  main : MainThread := .idle

/-- `run` goes on with the main thread and `io` with the first job of the cache, whose file
access may fail. `finish` is the end of a download, with the image that its data is or with
none, and `done` the call of its callbacks. -/
inductive LoaderAction where
  | configure (view : Nat) (cellImage : CellImage)
  | run
  | io (succeeds : Bool)
  | finish (task : Nat) (body : Option Nat)
  | done
  | deliver (result : Nat)
  | evictMemory (url : URL)
  | evictDisk (url : URL)
  deriving DecidableEq, Repr

inductive LoaderEvent where
  | nothing
  | issued (request : ImageRequest)
  | answered (request : ImageRequest) (image : Option Picture)
  | joinedDone (request : ImageRequest)
  deriving DecidableEq, Repr

namespace ImageLoader

variable (s : ImageLoader)

def setView (view : Nat) (f : ImageView → ImageView) : ImageLoader :=
  { s with views := Function.update s.views view (f (s.views view)) }

/-! ## The main thread -/

/-- `setImage` to the check of the caches. Without placeholder the image is removed. -/
def setImage (view : Nat) : Option URL → ImageLoader × LoaderEvent
  | none =>
    (s.setView view fun imageView => { imageView with image := none, taskIdentifier := none },
      .nothing)
  | some url =>
    let issuedIdentifier := s.currentIdentifier + 1
    let request : ImageRequest := { view, url, issuedIdentifier }
    ({ s.setView view fun imageView =>
          { imageView with image := none, taskIdentifier := some issuedIdentifier } with
        currentIdentifier := issuedIdentifier
        main :=
          .retrieveImage request ((s.memoryStorage url).isSome || (s.diskStorage url).isSome) },
      .issued request)

/-- The completion handler of `setImage`. Without image it leaves the view as it is. -/
def complete (request : ImageRequest) (image : Option Picture) : ImageLoader :=
  s.setView request.view fun imageView =>
    if imageView.taskIdentifier = some request.issuedIdentifier then
      { imageView with taskIdentifier := none, image := image.or imageView.image }
    else imageView

/-- `retrieveImage` of the cache. What was cached when it was checked may be gone. -/
def retrieveImage (request : ImageRequest) : ImageLoader × LoaderEvent :=
  match s.memoryStorage request.url with
  | some image =>
    ({ s with main := .idle }.complete request (some image), .answered request (some image))
  | none =>
    ({ s with main := .idle, ioQueue := s.ioQueue ++ [.retrieve request] }, .nothing)

/-- Whether the task in that place is done. -/
def taskIsDone (task : Nat) : Bool := s.sessionTasks[task]?.any (·.isDone)

/-- `SessionDelegate.append` -/
def append (task : Nat) (request : ImageRequest) : ImageLoader × LoaderEvent :=
  ({ s with
      main := .idle
      sessionTasks := s.sessionTasks.modify task fun sessionTask =>
        { sessionTask with callbacks := sessionTask.callbacks ++ [request] } },
    if s.taskIsDone task then .joinedDone request else .nothing)

/-- `SessionDelegate.add` -/
def add (request : ImageRequest) : ImageLoader :=
  { s with
    main := .idle
    sessionTasks := s.sessionTasks ++ [{ url := request.url, callbacks := [request] }]
    tasks := Function.update s.tasks request.url (some s.sessionTasks.length) }

def runMain : Option (ImageLoader × LoaderEvent) :=
  match s.main with
  | .idle => none
  | .retrieveImage request true => some (s.retrieveImage request)
  | .retrieveImage request false =>
    some ({ s with main := .downloadImage request (s.tasks request.url) }, .nothing)
  | .downloadImage request (some task) => some (s.append task request)
  | .downloadImage request none => some (s.add request, .nothing)

/-- `cacheImage`, which writes the file later. -/
def cacheImage (url : URL) (image : Picture) : ImageLoader :=
  { s with
    memoryStorage := Function.update s.memoryStorage url (some image)
    ioQueue := s.ioQueue ++ [.store url image] }

def deliver (place : Nat) (result : ImageResult) : ImageLoader :=
  let s := { s with results := s.results.eraseIdx place }
  match result.image, result.downloaded with
  | some image, true =>
    (s.cacheImage result.request.url image).complete result.request (some image)
  | image, _ => s.complete result.request image

/-- The code after an adapter's look at its object. -/
def configure (urlOf : String → Option URL) (view : Nat) (cellImage : CellImage) :
    ImageLoader × LoaderEvent :=
  let s := s.setView view fun imageView => { imageView with cellImage := some cellImage }
  match cellImage with
  | .setImage urlString => s.setImage view (urlOf urlString)
  | .image localImage =>
    (s.setView view fun imageView => { imageView with image := localImage.map .localImage },
      .nothing)

/-! ## The other threads -/

/-- What was read from a file goes into the memory first. -/
def runJob (succeeds : Bool) : IOJob → ImageLoader
  | .retrieve request =>
    match if succeeds then s.diskStorage request.url else none with
    | some image =>
      { s with
        memoryStorage := Function.update s.memoryStorage request.url (some image)
        results := s.results ++ [{ request, image := some image, downloaded := false }] }
    | none => { s with results := s.results ++ [{ request, image := none, downloaded := false }] }
  | .store url image =>
    if succeeds then { s with diskStorage := Function.update s.diskStorage url (some image) }
    else s

def runIO (succeeds : Bool) : Option ImageLoader :=
  match s.ioQueue with
  | [] => none
  | job :: jobs => some ({ s with ioQueue := jobs }.runJob succeeds job)

/-- `SessionDelegate.onCompleted`, which finds the task by its URL and removes it. The queue of
the session is serial. -/
def finish (task : Nat) (body : Option Nat) : Option ImageLoader :=
  match s.completing, s.sessionTasks[task]? with
  | none, some sessionTask =>
    if s.tasks sessionTask.url = some task then
      some { s with
        tasks := Function.update s.tasks sessionTask.url none
        completing := some (task, body.map (.remote sessionTask.url)) }
    else none
  | _, _ => none

def callbacks (task : Nat) : List ImageRequest :=
  match s.sessionTasks[task]? with
  | some sessionTask => sessionTask.callbacks
  | none => []

/-- `onTaskDone` with the callbacks that the task has now. -/
def done : Option ImageLoader :=
  match s.completing with
  | none => none
  | some (task, image) =>
    some { s with
      completing := none
      sessionTasks := s.sessionTasks.modify task fun sessionTask =>
        { sessionTask with isDone := true }
      results :=
        s.results ++ (s.callbacks task).map fun request => { request, image, downloaded := true } }

/-! ## Steps -/

/-- The main thread configures cells and runs completion handlers when it is not in `setImage`.
Results reach it in any order, and the caches drop images at any time. -/
def step (urlOf : String → Option URL) :
    LoaderAction → Option (ImageLoader × LoaderEvent)
  | .configure view cellImage =>
    if s.main = .idle then some (s.configure urlOf view cellImage) else none
  | .run => s.runMain
  | .io succeeds => (s.runIO succeeds).map (·, .nothing)
  | .finish task body => (s.finish task body).map (·, .nothing)
  | .done => s.done.map (·, .nothing)
  | .deliver place =>
    if s.main = .idle then
      s.results[place]?.map fun result =>
        (s.deliver place result, .answered result.request result.image)
    else none
  | .evictMemory url =>
    some ({ s with memoryStorage := Function.update s.memoryStorage url none }, .nothing)
  | .evictDisk url =>
    some ({ s with diskStorage := Function.update s.diskStorage url none }, .nothing)

def machine (urlOf : String → Option URL) : Machine ImageLoader LoaderAction LoaderEvent :=
  ⟨fun s => s.step urlOf⟩

/-- A process finds the files of the processes before it. -/
def start (diskStorage : URL → Option Picture) : ImageLoader := { diskStorage }

end ImageLoader

end FinanceApp
