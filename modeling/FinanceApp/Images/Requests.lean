import FinanceApp.Images.Loader
import FinanceApp.Lib.Conserved
import Mathlib.Algebra.Order.Group.Multiset

/-!
# Each request for an image is at one place

A request waits for the main thread, for a file, for a download or for its answer.
-/

namespace FinanceApp

/-! ## Where a request can be -/

def MainThread.requests : MainThread → List ImageRequest
  | .idle => []
  | .retrieveImage request _ => [request]
  | .downloadImage request _ => [request]

def IOJob.requests : IOJob → List ImageRequest
  | .retrieve request => [request]
  | .store _ _ => []

/-- Nobody calls a callback that joins a task when it is done. -/
def SessionDataTask.waiting (sessionTask : SessionDataTask) : List ImageRequest :=
  if sessionTask.isDone then [] else sessionTask.callbacks

namespace LoaderEvent

def issues : LoaderEvent → List ImageRequest
  | .issued request => [request]
  | _ => []

def answers : LoaderEvent → List ImageRequest
  | .answered request _ => [request]
  | _ => []

/-- The requests that joined a task when it was done. -/
def losses : LoaderEvent → List ImageRequest
  | .joinedDone request => [request]
  | _ => []

/-- The requests that the event lets go. -/
def settles (e : LoaderEvent) : List ImageRequest := e.answers ++ e.losses

end LoaderEvent

namespace ImageLoader

variable (s : ImageLoader)

/-- The requests that wait for a file, for their answer or for a download. -/
def queued : Multiset ImageRequest :=
  (s.ioQueue.flatMap (·.requests) : List ImageRequest) +
    (s.results.map (·.request) : List ImageRequest) +
    (s.sessionTasks.flatMap (·.waiting) : List ImageRequest)

/-- The requests that are not answered yet. -/
def pending : Multiset ImageRequest := s.main.requests + s.queued

/-! ## What a step does -/

/-- The view of a cell before `setImage` or the assignment of an image. -/
def configured (view : Nat) (cellImage : CellImage) : ImageLoader :=
  s.setView view fun imageView => { imageView with cellImage := some cellImage }

/-- The steps, with what each of them has found. -/
inductive Moves (urlOf : String → Option URL) : ImageLoader → LoaderEvent → Prop
  | image (view : Nat) (localImage : Option String) (idle : s.main = .idle) :
      Moves urlOf (s.configure urlOf view (.image localImage)).1 .nothing
  | noURL (view : Nat) (urlString : String) (idle : s.main = .idle)
      (bad : urlOf urlString = none) :
      Moves urlOf ((s.configured view (.setImage urlString)).setImage view none).1 .nothing
  | setImage (view : Nat) (urlString : String) (url : URL) (idle : s.main = .idle)
      (good : urlOf urlString = some url) :
      Moves urlOf ((s.configured view (.setImage urlString)).setImage view (some url)).1
        (.issued { view, url, issuedIdentifier := s.currentIdentifier + 1 })
  | inMemory (request : ImageRequest) (image : Picture)
      (main : s.main = .retrieveImage request true)
      (cached : s.memoryStorage request.url = some image) :
      Moves urlOf ({ s with main := .idle }.complete request (some image))
        (.answered request (some image))
  | notInMemory (request : ImageRequest) (main : s.main = .retrieveImage request true) :
      Moves urlOf { s with main := .idle, ioQueue := s.ioQueue ++ [.retrieve request] } .nothing
  | found (request : ImageRequest) (main : s.main = .retrieveImage request false) :
      Moves urlOf { s with main := .downloadImage request (s.tasks request.url) } .nothing
  | append (request : ImageRequest) (task : Nat)
      (main : s.main = .downloadImage request (some task)) :
      Moves urlOf (s.append task request).1 (s.append task request).2
  | add (request : ImageRequest) (main : s.main = .downloadImage request none) :
      Moves urlOf (s.add request) .nothing
  | read (request : ImageRequest) (jobs : List IOJob) (image : Option Picture)
      (queue : s.ioQueue = .retrieve request :: jobs)
      (stored : ∀ picture, image = some picture → s.diskStorage request.url = some picture) :
      Moves urlOf
        { s with
          ioQueue := jobs
          memoryStorage :=
            Function.update s.memoryStorage request.url (image.or (s.memoryStorage request.url))
          results := s.results ++ [{ request, image, downloaded := false }] } .nothing
  | write (url : URL) (image : Picture) (jobs : List IOJob) (succeeds : Bool)
      (queue : s.ioQueue = .store url image :: jobs) :
      Moves urlOf
        { s with
          ioQueue := jobs
          diskStorage := Function.update s.diskStorage url
            (if succeeds then some image else s.diskStorage url) } .nothing
  | finish (task : Nat) (body : Option Nat) (s' : ImageLoader)
      (finished : s.finish task body = some s') : Moves urlOf s' .nothing
  | done (s' : ImageLoader) (isDone : s.done = some s') : Moves urlOf s' .nothing
  | deliver (place : Nat) (result : ImageResult) (idle : s.main = .idle)
      (waiting : s.results[place]? = some result) :
      Moves urlOf (s.deliver place result) (.answered result.request result.image)
  | evict (memoryStorage diskStorage : URL → Option Picture)
      (memory : ∀ url image, memoryStorage url = some image → s.memoryStorage url = some image)
      (disk : ∀ url image, diskStorage url = some image → s.diskStorage url = some image) :
      Moves urlOf { s with memoryStorage, diskStorage } .nothing

variable {s}

theorem moves_runMain {urlOf : String → Option URL} {s' : ImageLoader} {e : LoaderEvent}
    (hrun : s.runMain = some (s', e)) : s.Moves urlOf s' e := by
  unfold runMain at hrun
  split at hrun
  next => cases hrun
  next request main =>
    unfold ImageLoader.retrieveImage at hrun
    split at hrun <;> cases hrun
    next image cached => exact .inMemory request image main cached
    next => exact .notInMemory request main
  next request main =>
    cases hrun
    exact .found request main
  next request task main =>
    cases hrun
    exact .append request task main
  next request main =>
    cases hrun
    exact .add request main

theorem moves_runIO {urlOf : String → Option URL} {succeeds : Bool} {s' : ImageLoader}
    (hrun : s.runIO succeeds = some s') : s.Moves urlOf s' .nothing := by
  unfold runIO at hrun
  split at hrun
  next => cases hrun
  next job jobs queue =>
    cases hrun
    cases job with
    | retrieve request =>
      unfold runJob
      dsimp only
      split
      next image hread =>
        refine .read request jobs (some image) queue ?_
        rintro picture ⟨⟩
        split at hread
        next => exact hread
        next => cases hread
      next =>
        have hnone := @Moves.read s urlOf request jobs none queue (by simp)
        rwa [Option.none_or, Function.update_eq_self] at hnone
    | store url image =>
      have hwrite := @Moves.write s urlOf url image jobs succeeds queue
      unfold runJob
      dsimp only
      split
      next hsucceeds => rwa [if_pos hsucceeds] at hwrite
      next hfails => rwa [if_neg hfails, Function.update_eq_self] at hwrite

theorem moves_of_step {urlOf : String → Option URL} {a : LoaderAction} {s' : ImageLoader}
    {e : LoaderEvent} (hstep : (machine urlOf).step s a = some (s', e)) : s.Moves urlOf s' e := by
  cases a with
  | configure view cellImage =>
    simp only [machine, step] at hstep
    split at hstep
    next idle =>
      cases cellImage with
      | image localImage =>
        cases hstep
        exact .image view localImage idle
      | setImage urlString =>
        unfold configure at hstep
        dsimp only at hstep
        cases hurl : urlOf urlString with
        | none =>
          rw [hurl] at hstep
          cases hstep
          exact .noURL view urlString idle hurl
        | some url =>
          rw [hurl] at hstep
          cases hstep
          exact .setImage view urlString url idle hurl
    next => cases hstep
  | run => exact moves_runMain hstep
  | io succeeds =>
    obtain ⟨_, hrun, heq⟩ := Option.map_eq_some_iff.mp hstep
    cases heq
    exact moves_runIO hrun
  | finish task body =>
    obtain ⟨_, hfinish, heq⟩ := Option.map_eq_some_iff.mp hstep
    cases heq
    exact .finish task body _ hfinish
  | done =>
    obtain ⟨_, hdone, heq⟩ := Option.map_eq_some_iff.mp hstep
    cases heq
    exact .done _ hdone
  | deliver place =>
    simp only [machine, step] at hstep
    split at hstep
    next idle =>
      obtain ⟨result, waiting, heq⟩ := Option.map_eq_some_iff.mp hstep
      cases heq
      exact .deliver place result idle waiting
    next => cases hstep
  | evictMemory url =>
    cases hstep
    refine .evict _ _ ?_ (fun _ _ h => h)
    intro other image hother
    rw [Function.update_apply] at hother
    split at hother
    next => cases hother
    next => exact hother
  | evictDisk url =>
    cases hstep
    refine .evict _ _ (fun _ _ h => h) ?_
    intro other image hother
    rw [Function.update_apply] at hother
    split at hother
    next => cases hother
    next => exact hother

/-! ## What the functions of the other threads do -/

theorem finish_cases {task : Nat} {body : Option Nat} {s' : ImageLoader}
    (hfinish : s.finish task body = some s') :
    ∃ sessionTask, s.completing = none ∧ s.sessionTasks[task]? = some sessionTask ∧
      s.tasks sessionTask.url = some task ∧
      s' = { s with
        tasks := Function.update s.tasks sessionTask.url none
        completing := some (task, body.map (.remote sessionTask.url)) } := by
  unfold ImageLoader.finish at hfinish
  split at hfinish
  next sessionTask hcompleting hplace =>
    split at hfinish
    next htask => exact ⟨sessionTask, hcompleting, hplace, htask, (Option.some.inj hfinish).symm⟩
    next => cases hfinish
  next => cases hfinish

theorem done_cases {s' : ImageLoader} (hdone : s.done = some s') :
    ∃ task image, s.completing = some (task, image) ∧
      s' = { s with
        completing := none
        sessionTasks := s.sessionTasks.modify task fun sessionTask =>
          { sessionTask with isDone := true }
        results := s.results ++
          (s.callbacks task).map fun request => { request, image, downloaded := true } } := by
  unfold ImageLoader.done at hdone
  split at hdone
  next => cases hdone
  next task image hcompleting =>
    exact ⟨task, image, hcompleting, (Option.some.inj hdone).symm⟩

theorem issues_append (task : Nat) (request : ImageRequest) :
    (s.append task request).2.issues = [] := by
  unfold ImageLoader.append
  dsimp only
  split <;> rfl

section Deliver

variable (s) (place : Nat) (result : ImageResult)

theorem deliver_main : (s.deliver place result).main = s.main := by
  unfold deliver
  dsimp only
  split <;> rfl

theorem deliver_currentIdentifier :
    (s.deliver place result).currentIdentifier = s.currentIdentifier := by
  unfold deliver
  dsimp only
  split <;> rfl

theorem deliver_sessionTasks : (s.deliver place result).sessionTasks = s.sessionTasks := by
  unfold deliver
  dsimp only
  split <;> rfl

theorem deliver_tasks : (s.deliver place result).tasks = s.tasks := by
  unfold deliver
  dsimp only
  split <;> rfl

theorem deliver_completing : (s.deliver place result).completing = s.completing := by
  unfold deliver
  dsimp only
  split <;> rfl

theorem deliver_results : (s.deliver place result).results = s.results.eraseIdx place := by
  unfold deliver
  dsimp only
  split <;> rfl

theorem deliver_views :
    (s.deliver place result).views = (s.complete result.request result.image).views := by
  unfold deliver
  dsimp only
  split
  next image => simp only [*]; rfl
  next => rfl

theorem deliver_ioQueue :
    (s.deliver place result).ioQueue.flatMap (·.requests) = s.ioQueue.flatMap (·.requests) := by
  unfold deliver
  dsimp only
  split
  next => exact List.flatMap_append.trans (List.append_nil _)
  next => rfl

end Deliver

variable (s)

/-! ## Tasks -/

theorem getElem?_modify_sessionTask {sessionTasks : List SessionDataTask} {task place : Nat}
    {sessionTask : SessionDataTask} (f : SessionDataTask → SessionDataTask)
    (h : sessionTasks[place]? = some sessionTask) :
    (sessionTasks.modify task f)[place]? =
      some (if task = place then f sessionTask else sessionTask) := by
  rw [List.getElem?_modify, h]
  split <;> rfl

/-- A task that can be joined, is completing or was found has the URL it is found by. Only a
task that was found can be done before it is joined. -/
structure Sound : Prop where
  tasks : ∀ {url task}, s.tasks url = some task →
    ∃ sessionTask, s.sessionTasks[task]? = some sessionTask ∧ sessionTask.url = url ∧
      sessionTask.isDone = false
  completing : ∀ {task image}, s.completing = some (task, image) →
    ∃ sessionTask, s.sessionTasks[task]? = some sessionTask ∧ sessionTask.isDone = false ∧
      s.tasks sessionTask.url ≠ some task
  found : ∀ {request task}, s.main = .downloadImage request (some task) →
    ∃ sessionTask, s.sessionTasks[task]? = some sessionTask ∧ sessionTask.url = request.url

variable {s}

theorem sound_start (diskStorage : URL → Option Picture) : Sound (start diskStorage) := by
  refine ⟨?_, ?_, ?_⟩ <;> intro _ _ h <;> cases h

theorem Sound.of_eq {s' : ImageLoader} (h : Sound s)
    (hsessionTasks : s'.sessionTasks = s.sessionTasks) (htasks : s'.tasks = s.tasks)
    (hcompleting : s'.completing = s.completing)
    (hmain : s'.main = s.main ∨ ∀ request task, s'.main ≠ .downloadImage request (some task)) :
    Sound s' := by
  refine ⟨?_, ?_, ?_⟩
  · rw [htasks, hsessionTasks]
    exact h.tasks
  · rw [hcompleting, hsessionTasks, htasks]
    exact h.completing
  · rw [hsessionTasks]
    intro request task hfound
    rcases hmain with hmain | hmain
    · exact h.found (hmain.symm.trans hfound)
    · exact absurd hfound (hmain request task)

theorem Sound.append (h : Sound s) (task : Nat) (request : ImageRequest) :
    Sound (s.append task request).1 := by
  -- The task that is joined keeps its URL and whether it is done.
  have hjoined : ∀ {place : Nat} {sessionTask : SessionDataTask},
      s.sessionTasks[place]? = some sessionTask →
      ∃ joined : SessionDataTask, (s.append task request).1.sessionTasks[place]? = some joined ∧
        joined.url = sessionTask.url ∧ joined.isDone = sessionTask.isDone := by
    intro place sessionTask hplace
    refine ⟨_, getElem?_modify_sessionTask _ hplace, ?_⟩
    split <;> exact ⟨rfl, rfl⟩
  refine ⟨?_, ?_, ?_⟩
  · intro url place htask
    obtain ⟨sessionTask, hplace, hurl, hdone⟩ := h.tasks htask
    obtain ⟨joined, hjoin, hurl', hdone'⟩ := hjoined hplace
    exact ⟨joined, hjoin, hurl'.trans hurl, hdone'.trans hdone⟩
  · intro place image hcompleting
    obtain ⟨sessionTask, hplace, hdone, hurl⟩ := h.completing hcompleting
    obtain ⟨joined, hjoin, hurl', hdone'⟩ := hjoined hplace
    exact ⟨joined, hjoin, hdone'.trans hdone, by rw [hurl']; exact hurl⟩
  · intro _ _ hfound
    cases hfound

theorem tasks_add (request : ImageRequest) (url : URL) :
    (s.add request).tasks url =
      if url = request.url then some s.sessionTasks.length else s.tasks url :=
  Function.update_apply ..

theorem Sound.add (h : Sound s) (request : ImageRequest) : Sound (s.add request) := by
  have hold : ∀ {place : Nat} {sessionTask : SessionDataTask},
      s.sessionTasks[place]? = some sessionTask →
      (s.add request).sessionTasks[place]? = some sessionTask := by
    intro place sessionTask hplace
    exact (List.getElem?_append_left (List.getElem?_eq_some_iff.mp hplace).1).trans hplace
  refine ⟨?_, ?_, ?_⟩
  · intro url place htask
    rw [tasks_add] at htask
    split at htask
    next hurl =>
      cases htask
      exact ⟨_, List.getElem?_concat_length, hurl.symm, rfl⟩
    next =>
      obtain ⟨sessionTask, hplace, hrest⟩ := h.tasks htask
      exact ⟨sessionTask, hold hplace, hrest⟩
  · intro place image hcompleting
    obtain ⟨sessionTask, hplace, hdone, hurl⟩ := h.completing hcompleting
    refine ⟨sessionTask, hold hplace, hdone, fun htask => ?_⟩
    rw [tasks_add] at htask
    split at htask
    next =>
      cases htask
      exact absurd (List.getElem?_eq_some_iff.mp hplace).1 (lt_irrefl _)
    next => exact hurl htask
  · intro _ _ hfound
    cases hfound

theorem Sound.finish {task : Nat} {body : Option Nat} {s' : ImageLoader} (h : Sound s)
    (hfinish : s.finish task body = some s') : Sound s' := by
  obtain ⟨sessionTask, -, hplace, htask, rfl⟩ := finish_cases hfinish
  refine ⟨?_, ?_, h.found⟩
  · intro url place hother
    by_cases hurl : url = sessionTask.url
    · subst hurl
      exact absurd ((Function.update_self ..).symm.trans hother) (Option.some_ne_none _).symm
    · exact h.tasks ((Function.update_of_ne hurl ..).symm.trans hother)
  · rintro place image hsame
    cases hsame
    obtain ⟨_, hplace', -, hdone⟩ := h.tasks htask
    cases hplace.symm.trans hplace'
    refine ⟨sessionTask, hplace, hdone, fun hother => ?_⟩
    exact absurd ((Function.update_self ..).symm.trans hother) (Option.some_ne_none _).symm

theorem Sound.done {s' : ImageLoader} (h : Sound s) (hdone : s.done = some s') : Sound s' := by
  obtain ⟨task, image, hcompleting, rfl⟩ := done_cases hdone
  obtain ⟨completed, hcompleted, -, hremoved⟩ := h.completing hcompleting
  refine ⟨?_, ?_, ?_⟩
  · intro url place htask
    obtain ⟨sessionTask, hplace, hurl, hrest⟩ := h.tasks htask
    have hne : task ≠ place := by
      rintro rfl
      cases hcompleted.symm.trans hplace
      exact hremoved (hurl.symm ▸ htask)
    exact ⟨sessionTask, by rw [getElem?_modify_sessionTask _ hplace, if_neg hne], hurl, hrest⟩
  · intro _ _ hnone
    cases hnone
  · intro request place hfound
    obtain ⟨sessionTask, hplace, hurl⟩ := h.found hfound
    refine ⟨_, getElem?_modify_sessionTask _ hplace, ?_⟩
    split <;> exact hurl

theorem sound_step {urlOf : String → Option URL} {a : LoaderAction} {s' : ImageLoader}
    {e : LoaderEvent} (h : Sound s) (hstep : (machine urlOf).step s a = some (s', e)) :
    Sound s' := by
  have hidle : ∀ {s' : ImageLoader}, s'.main = .idle →
      ∀ request task, s'.main ≠ .downloadImage request (some task) := by
    intro s' hidle request task hfound
    rw [hidle] at hfound
    cases hfound
  cases moves_of_step hstep with
  | image _ _ _ | noURL _ _ _ _ | read _ _ _ _ _ | write _ _ _ _ _ | evict _ _ _ _ =>
    exact h.of_eq rfl rfl rfl (.inl rfl)
  | setImage view urlString url _ _ =>
    exact h.of_eq rfl rfl rfl (.inr fun _ _ hfound => by cases hfound)
  | inMemory request image _ _ => exact h.of_eq rfl rfl rfl (.inr (hidle rfl))
  | notInMemory request _ => exact h.of_eq rfl rfl rfl (.inr (hidle rfl))
  | found request _ =>
    refine ⟨h.tasks, h.completing, ?_⟩
    intro request' task hfound
    obtain ⟨rfl, htask⟩ := MainThread.downloadImage.inj hfound
    obtain ⟨sessionTask, hplace, hurl, -⟩ := h.tasks htask
    exact ⟨sessionTask, hplace, hurl⟩
  | append request task _ => exact h.append task request
  | add request _ => exact h.add request
  | finish task body _ hfinish => exact h.finish hfinish
  | done _ hdone => exact h.done hdone
  | deliver place result _ _ =>
    exact h.of_eq (deliver_sessionTasks s place result) (deliver_tasks s place result)
      (deliver_completing s place result) (.inl (deliver_main s place result))

/-! ## No request is made or lost on the way -/

theorem flatMap_modify {sessionTasks : List SessionDataTask} {task : Nat}
    {sessionTask : SessionDataTask} (f : SessionDataTask → SessionDataTask)
    (h : sessionTasks[task]? = some sessionTask) :
    (((sessionTasks.modify task f).flatMap (·.waiting) : List ImageRequest) :
        Multiset ImageRequest) + sessionTask.waiting =
      (sessionTasks.flatMap (·.waiting) : List ImageRequest) + (f sessionTask).waiting := by
  induction sessionTasks generalizing task with
  | nil => cases h
  | cons first rest ih =>
    cases task with
    | zero =>
      cases h
      simp only [List.modify_zero_cons, List.flatMap_cons, ← Multiset.coe_add]
      abel
    | succ task =>
      have hrest := @ih task h
      simp only [List.modify_succ_cons, List.flatMap_cons, ← Multiset.coe_add]
      rw [add_assoc, hrest, add_assoc]

theorem map_eraseIdx {results : List ImageResult} {place : Nat} {result : ImageResult}
    (h : results[place]? = some result) :
    ((results.eraseIdx place).map (·.request) : Multiset ImageRequest) + [result.request] =
      (results.map (·.request) : List ImageRequest) := by
  obtain ⟨hlt, rfl⟩ := List.getElem?_eq_some_iff.mp h
  rw [Multiset.coe_add, Multiset.coe_eq_coe]
  refine List.perm_append_comm.trans ?_
  exact (List.getElem_cons_eraseIdx_perm hlt).map (·.request)

theorem pending_append {request : ImageRequest} {task : Nat} (h : Sound s)
    (main : s.main = .downloadImage request (some task)) :
    s.pending = (s.append task request).1.pending + (s.append task request).2.settles := by
  obtain ⟨sessionTask, hplace, -⟩ := h.found main
  have hmodify := flatMap_modify (fun sessionTask : SessionDataTask =>
    { sessionTask with callbacks := sessionTask.callbacks ++ [request] }) hplace
  have htask : s.taskIsDone task = sessionTask.isDone := by
    rw [taskIsDone, hplace, Option.any_some]
  unfold pending queued ImageLoader.append
  rw [main, htask]
  cases hisDone : sessionTask.isDone with
  | true =>
    simp only [SessionDataTask.waiting, hisDone, if_true, Multiset.coe_nil, add_zero] at hmodify
    simp only [MainThread.requests, LoaderEvent.settles, LoaderEvent.answers, LoaderEvent.losses,
      if_true, List.nil_append, Multiset.coe_nil, zero_add, SessionDataTask.waiting, hmodify]
    abel
  | false =>
    simp only [SessionDataTask.waiting, hisDone, ← Multiset.coe_add, Bool.false_eq_true, if_false,
      add_comm (sessionTask.callbacks : Multiset ImageRequest) [request], ← add_assoc,
      add_left_inj] at hmodify
    simp only [MainThread.requests, LoaderEvent.settles, LoaderEvent.answers, LoaderEvent.losses,
      Bool.false_eq_true, if_false, List.nil_append, Multiset.coe_nil, zero_add, add_zero,
      SessionDataTask.waiting, hmodify]
    abel

theorem pending_done {s' : ImageLoader} (h : Sound s) (hdone : s.done = some s') :
    s.pending = s'.pending := by
  obtain ⟨task, image, hcompleting, rfl⟩ := done_cases hdone
  obtain ⟨sessionTask, hplace, hrunning, -⟩ := h.completing hcompleting
  have hmodify := flatMap_modify (fun sessionTask : SessionDataTask =>
    { sessionTask with isDone := true }) hplace
  have hcallbacks : s.callbacks task = sessionTask.callbacks := by
    rw [callbacks, hplace]
  simp only [SessionDataTask.waiting, hrunning, Bool.false_eq_true, if_false, if_true,
    Multiset.coe_nil, add_zero] at hmodify
  unfold pending queued
  simp only [List.map_append, List.map_map, Function.comp_def, List.map_id', hcallbacks,
    ← Multiset.coe_add, SessionDataTask.waiting, ← hmodify]
  abel

theorem pending_deliver {place : Nat} {result : ImageResult}
    (waiting : s.results[place]? = some result) :
    s.pending = (s.deliver place result).pending + ([result.request] : List ImageRequest) := by
  have hresults := map_eraseIdx waiting
  simp only [pending, queued, deliver_main, deliver_ioQueue, deliver_sessionTasks, deliver_results,
    ← hresults]
  abel

theorem pending_step {urlOf : String → Option URL} {a : LoaderAction} {s' : ImageLoader}
    {e : LoaderEvent} (h : Sound s) (hstep : (machine urlOf).step s a = some (s', e)) :
    s.pending + e.issues = s'.pending + e.settles := by
  -- What a step takes from one place it puts into another.
  cases moves_of_step hstep with
  | image _ _ _ | noURL _ _ _ _ | evict _ _ _ _ => rfl
  | setImage view urlString url idle _ =>
    rw [pending, idle]
    show (0 : Multiset ImageRequest) + s.queued + ([_] : List ImageRequest) =
      ([_] : List ImageRequest) + s.queued + 0
    abel
  | inMemory request image main _ =>
    rw [pending, main]
    show ([request] : List ImageRequest) + s.queued + 0 =
      (0 : Multiset ImageRequest) + s.queued + [request]
    abel
  | notInMemory request main =>
    have hqueue : (s.ioQueue ++ [IOJob.retrieve request]).flatMap (·.requests) =
        s.ioQueue.flatMap (·.requests) ++ [request] := by
      rw [List.flatMap_append]
      rfl
    simp only [pending, queued, main, hqueue, ← Multiset.coe_add]
    show ([request] : List ImageRequest) + _ + (0 : Multiset ImageRequest) = 0 + _ + 0
    abel
  | found request main =>
    rw [pending, main]
    rfl
  | append request task main =>
    rw [← pending_append h main]
    show s.pending + (LoaderEvent.issues _ : Multiset ImageRequest) = s.pending
    rw [issues_append]
    exact add_zero _
  | add request main =>
    have htasks : (s.add request).sessionTasks.flatMap (·.waiting) =
        s.sessionTasks.flatMap (·.waiting) ++ [request] := by
      rw [add, List.flatMap_append]
      rfl
    have hioQueue : (s.add request).ioQueue = s.ioQueue := rfl
    have hresults : (s.add request).results = s.results := rfl
    simp only [pending, queued, main, htasks, hioQueue, hresults, ← Multiset.coe_add]
    show ([request] : List ImageRequest) + _ + (0 : Multiset ImageRequest) = 0 + _ + 0
    abel
  | read request jobs image queue _ =>
    simp only [pending, queued, queue, List.flatMap_cons, List.map_append, ← Multiset.coe_add]
    show _ + (([request] : List ImageRequest) + _ + _ + _) + (0 : Multiset ImageRequest) =
      _ + (_ + (_ + ([request] : List ImageRequest)) + _) + 0
    abel
  | write url image jobs succeeds queue =>
    rw [pending, queued, queue]
    rfl
  | finish task body _ hfinish =>
    obtain ⟨sessionTask, -, -, -, rfl⟩ := finish_cases hfinish
    rfl
  | done _ hdone => rw [pending_done h hdone]; rfl
  | deliver place result idle waiting =>
    rw [pending_deliver waiting]
    exact add_zero _

theorem issues_step {urlOf : String → Option URL} {a : LoaderAction} {s' : ImageLoader}
    {e : LoaderEvent} (hstep : (machine urlOf).step s a = some (s', e)) :
    (e.issues = [] ∧ s'.currentIdentifier = s.currentIdentifier) ∨
      ∃ request, e = .issued request ∧ request.issuedIdentifier = s.currentIdentifier + 1 ∧
        s'.currentIdentifier = s.currentIdentifier + 1 := by
  cases moves_of_step hstep with
  | image _ _ _ | noURL _ _ _ _ | inMemory _ _ _ _ | notInMemory _ _ | found _ _ | add _ _
  | read _ _ _ _ _ | write _ _ _ _ _ | evict _ _ _ _ => exact .inl ⟨rfl, rfl⟩
  | setImage view urlString url _ _ => exact .inr ⟨_, rfl, rfl, rfl⟩
  | append request task _ => exact .inl ⟨issues_append task request, rfl⟩
  | finish task body _ hfinish =>
    obtain ⟨sessionTask, -, -, -, rfl⟩ := finish_cases hfinish
    exact .inl ⟨rfl, rfl⟩
  | done _ hdone =>
    obtain ⟨task, image, -, rfl⟩ := done_cases hdone
    exact .inl ⟨rfl, rfl⟩
  | deliver place result _ _ => exact .inl ⟨rfl, deliver_currentIdentifier s place result⟩

def answered (log : List LoaderEvent) : List ImageRequest := log.flatMap (·.answers)

def lost (log : List LoaderEvent) : List ImageRequest := log.flatMap (·.losses)

theorem issued_identifiers {urlOf : String → Option URL} {diskStorage : URL → Option Picture}
    {as : List LoaderAction} {log : List LoaderEvent}
    (hrun : (machine urlOf).run (start diskStorage) as = some (s, log)) :
    (log.flatMap (·.issues)).map (·.issuedIdentifier) = List.range' 1 s.currentIdentifier := by
  refine (machine urlOf).run_induction (P := fun log s =>
    (log.flatMap (·.issues)).map (·.issuedIdentifier) = List.range' 1 s.currentIdentifier)
    rfl ?_ hrun
  intro es s a s' e ih hstep
  rw [List.flatMap_append, List.flatMap_singleton, List.map_append, ih]
  rcases issues_step hstep with ⟨hnone, hsame⟩ | ⟨request, rfl, hidentifier, hnext⟩
  · rw [hnone, hsame, List.map_nil, List.append_nil]
  · rw [hnext, List.range'_1_concat, LoaderEvent.issues, List.map_singleton, hidentifier, add_comm]

theorem sum_coe_lists (f : LoaderEvent → List ImageRequest) (log : List LoaderEvent) :
    (log.map fun e => (f e : Multiset ImageRequest)).sum =
      (log.flatMap f : List ImageRequest) := by
  induction log with
  | nil => rfl
  | cons e log ih => rw [List.map_cons, List.sum_cons, ih, List.flatMap_cons, Multiset.coe_add]

/-- In every run each request that was made is at one place once: it waits, or it was answered,
or it joined a task that was done. -/
theorem requests_are_conserved (urlOf : String → Option URL) (diskStorage : URL → Option Picture)
    (as : List LoaderAction) {s : ImageLoader} {log : List LoaderEvent}
    (hrun : (machine urlOf).run (start diskStorage) as = some (s, log)) :
    (s.pending + answered log + lost log).map (·.issuedIdentifier) =
      List.range' 1 s.currentIdentifier := by
  have hbalance := (machine urlOf).run_conserves pending
    (fun e => (e.issues : Multiset ImageRequest))
    (fun e => (e.answers : Multiset ImageRequest) + e.losses) (sound_start diskStorage)
    sound_step (fun h hstep => pending_step h hstep) hrun
  have hstart : (start diskStorage).pending = 0 := rfl
  rw [hstart, zero_add, List.sum_map_add, sum_coe_lists, sum_coe_lists, sum_coe_lists,
    ← add_assoc] at hbalance
  rw [answered, lost, ← hbalance, ← issued_identifiers hrun, Multiset.map_coe]

/-- Two cells wait for one download and a third one joins it when it is done. The first cell
has its answer, and a fourth one asks the cache for another file. -/
def fourCells : List LoaderAction :=
  [.configure 0 (.setImage "https://a"), .run, .run,
    .configure 1 (.setImage "https://a"), .run, .run,
    .configure 2 (.setImage "https://a"), .run, .finish 0 (some 7), .done, .run,
    .deliver 0, .configure 3 (.setImage "https://b"), .run]

theorem four_requests_are_conserved :
    ∃ s log, (machine some).run (start fun _ => none) fourCells = some (s, log) ∧
      s.pending = ([⟨3, "https://b", 4⟩, ⟨1, "https://a", 2⟩] : List ImageRequest) ∧
      answered log = [⟨0, "https://a", 1⟩] ∧ lost log = [⟨2, "https://a", 3⟩] ∧
      (s.pending + answered log + lost log).map (·.issuedIdentifier) =
        List.range' 1 s.currentIdentifier :=
  ⟨_, _, rfl, by decide, by decide, by decide,
    requests_are_conserved some (fun _ => none) fourCells rfl⟩

/-! ## Which requests are lost -/

/-- The main thread is about to join a task that is done. -/
def Behind (s : ImageLoader) : Prop :=
  ∃ request task, s.main = .downloadImage request (some task) ∧ s.taskIsDone task = true

/-- The step makes the task done that the main thread has found and not joined yet. -/
def Overtakes (s s' : ImageLoader) : Prop :=
  ∃ request task, s.main = .downloadImage request (some task) ∧ s.taskIsDone task = false ∧
    s'.taskIsDone task = true

theorem behind_iff_overtakes {s' : ImageLoader} (hmain : s'.main = s.main) (h : ¬ Behind s) :
    Behind s' ↔ Overtakes s s' := by
  constructor
  · rintro ⟨request, task, hfound, hdone⟩
    rw [hmain] at hfound
    refine ⟨request, task, hfound, ?_, hdone⟩
    by_contra hbefore
    exact h ⟨request, task, hfound, Bool.not_eq_false _ ▸ hbefore⟩
  · rintro ⟨request, task, hfound, -, hdone⟩
    exact ⟨request, task, hmain.trans hfound, hdone⟩

theorem not_behind {s : ImageLoader}
    (hmain : ∀ request task, s.main ≠ .downloadImage request (some task)) : ¬ Behind s := by
  rintro ⟨request, task, hfound, -⟩
  exact hmain request task hfound

theorem not_overtakes {s s' : ImageLoader}
    (hmain : ∀ request task, s.main ≠ .downloadImage request (some task)) : ¬ Overtakes s s' := by
  rintro ⟨request, task, hfound, -, -⟩
  exact hmain request task hfound

theorem taskIsDone_append (task place : Nat) (request : ImageRequest) :
    (s.append task request).1.taskIsDone place = s.taskIsDone place := by
  unfold taskIsDone ImageLoader.append
  dsimp only
  cases hplace : s.sessionTasks[place]? with
  | none =>
    rw [List.getElem?_modify, hplace]
    rfl
  | some sessionTask =>
    rw [getElem?_modify_sessionTask _ hplace]
    split <;> rfl

theorem finish_keeps {task : Nat} {body : Option Nat} {s' : ImageLoader}
    (hfinish : s.finish task body = some s') :
    s'.main = s.main ∧ s'.sessionTasks = s.sessionTasks ∧ s'.views = s.views := by
  obtain ⟨sessionTask, -, -, -, rfl⟩ := finish_cases hfinish
  exact ⟨rfl, rfl, rfl⟩

theorem done_keeps {s' : ImageLoader} (hdone : s.done = some s') :
    s'.main = s.main ∧ s'.views = s.views := by
  obtain ⟨task, image, -, rfl⟩ := done_cases hdone
  exact ⟨rfl, rfl⟩

/-- When the main thread is in step, nothing is lost, and only a task that overtakes it puts
it behind. -/
theorem behind_step {urlOf : String → Option URL} {a : LoaderAction} {s' : ImageLoader}
    {e : LoaderEvent} (hs : Sound s) (h : ¬ Behind s)
    (hstep : (machine urlOf).step s a = some (s', e)) :
    e.losses = [] ∧ (Behind s' ↔ Overtakes s s') := by
  cases moves_of_step hstep with
  | image _ _ _ | noURL _ _ _ _ | read _ _ _ _ _ | write _ _ _ _ _ | evict _ _ _ _ =>
    exact ⟨rfl, behind_iff_overtakes rfl h⟩
  | setImage _ _ _ idle _ =>
    exact ⟨rfl, iff_of_false (not_behind fun _ _ hfound => by cases hfound)
      (not_overtakes (by simp [idle]))⟩
  | inMemory _ _ main _ =>
    exact ⟨rfl, iff_of_false (not_behind fun _ _ hfound => by cases hfound)
      (not_overtakes (by simp [main]))⟩
  | notInMemory _ main | add _ main =>
    exact ⟨rfl, iff_of_false (not_behind fun _ _ hfound => by cases hfound)
      (not_overtakes (by simp [main]))⟩
  | found request main =>
    refine ⟨rfl, iff_of_false ?_ (not_overtakes (by simp [main]))⟩
    rintro ⟨_, task, hfound, hdone⟩
    obtain ⟨sessionTask, hplace, -, hrunning⟩ := hs.tasks (MainThread.downloadImage.inj hfound).2
    rw [taskIsDone, hplace, Option.any_some, hrunning] at hdone
    cases hdone
  | append request task main =>
    have hrunning : s.taskIsDone task = false := by
      by_contra hdone
      exact h ⟨request, task, main, Bool.not_eq_false _ ▸ hdone⟩
    refine ⟨?_, iff_of_false (not_behind fun _ _ hfound => by cases hfound) ?_⟩
    · unfold ImageLoader.append
      rw [hrunning]
      rfl
    · rintro ⟨_, place, -, hbefore, hafter⟩
      rw [taskIsDone_append, hbefore] at hafter
      cases hafter
  | finish task body _ hfinish =>
    exact ⟨rfl, behind_iff_overtakes (finish_keeps hfinish).1 h⟩
  | done _ hdone => exact ⟨rfl, behind_iff_overtakes (done_keeps hdone).1 h⟩
  | deliver place result _ _ =>
    exact ⟨rfl, behind_iff_overtakes (deliver_main s place result) h⟩

theorem behind_stays {urlOf : String → Option URL} {a : LoaderAction} {s' : ImageLoader}
    {e : LoaderEvent} (h : Behind s) (hstep : (machine urlOf).step s a = some (s', e)) :
    e.losses ≠ [] ∨ Behind s' := by
  -- A main thread that is behind loses its request.
  obtain ⟨request, task, hfound, hdone⟩ := h
  cases moves_of_step hstep with
  | image _ _ idle | noURL _ _ idle _ | setImage _ _ _ idle _ | deliver _ _ idle _ =>
    rw [idle] at hfound
    cases hfound
  | inMemory _ _ main _ | notInMemory _ main | found _ main | add _ main =>
    rw [main] at hfound
    cases hfound
  | append request' task' main =>
    cases main.symm.trans hfound
    left
    unfold ImageLoader.append
    rw [hdone]
    exact List.cons_ne_nil _ _
  | read _ _ _ _ _ | write _ _ _ _ _ | evict _ _ _ _ =>
    exact .inr ⟨request, task, hfound, hdone⟩
  | finish task' body _ hfinish =>
    obtain ⟨hmain, hsessionTasks, -⟩ := finish_keeps hfinish
    exact .inr ⟨request, task, hmain.trans hfound, by rwa [taskIsDone, hsessionTasks]⟩
  | done _ hdone' =>
    refine .inr ⟨request, task, (done_keeps hdone').1.trans hfound, ?_⟩
    obtain ⟨other, image, -, rfl⟩ := done_cases hdone'
    unfold taskIsDone at hdone ⊢
    dsimp only
    cases hplace : s.sessionTasks[task]? with
    | none =>
      rw [hplace] at hdone
      cases hdone
    | some sessionTask =>
      rw [hplace] at hdone
      rw [getElem?_modify_sessionTask _ hplace]
      split
      next => rfl
      next => exact hdone

theorem lost_of_behind {urlOf : String → Option URL} {as : List LoaderAction} {s' : ImageLoader}
    {log : List LoaderEvent} (h : Behind s) (hrun : (machine urlOf).run s as = some (s', log))
    (hidle : s'.main = .idle) : lost log ≠ [] := by
  induction as generalizing s log with
  | nil =>
    cases hrun
    obtain ⟨request, task, hfound, -⟩ := h
    rw [hidle] at hfound
    cases hfound
  | cons a as ih =>
    obtain ⟨s₁, e, es, hstep, hrest, rfl⟩ := (machine urlOf).run_cons_eq_some.mp hrun
    rw [lost, List.flatMap_cons]
    rcases behind_stays h hstep with hloses | hbehind
    · exact List.append_ne_nil_of_left_ne_nil hloses _
    · exact List.append_ne_nil_of_right_ne_nil _ (ih hbehind hrest)

theorem nothing_lost_iff_of_not_behind {urlOf : String → Option URL} {as : List LoaderAction}
    {s' : ImageLoader} {log : List LoaderEvent} (hs : Sound s) (h : ¬ Behind s)
    (hrun : (machine urlOf).run s as = some (s', log)) (hidle : s'.main = .idle) :
    lost log = [] ↔ (machine urlOf).Always (fun s _ s' _ => ¬ Overtakes s s') s as := by
  induction as generalizing s log with
  | nil =>
    cases hrun
    exact iff_of_true rfl (machine urlOf).always_nil
  | cons a as ih =>
    obtain ⟨s₁, e, es, hstep, hrest, rfl⟩ := (machine urlOf).run_cons_eq_some.mp hrun
    obtain ⟨hnothing, hbehind⟩ := behind_step hs h hstep
    have hlost : lost (e :: es) = lost es := by
      rw [lost, List.flatMap_cons, hnothing, List.nil_append, lost]
    rw [hlost, (machine urlOf).always_cons]
    by_cases hovertakes : Overtakes s s₁
    · refine iff_of_false (lost_of_behind (hbehind.mpr hovertakes) hrest hidle) fun hall => ?_
      exact (hall hstep).1 hovertakes
    · rw [ih (sound_step hs hstep) (fun hb => hovertakes (hbehind.mp hb)) hrest]
      constructor
      · rintro hall s₂ e₂ hstep₂
        cases hstep.symm.trans hstep₂
        exact ⟨hovertakes, hall⟩
      · intro hall
        exact (hall hstep).2

/-- In every run that ends with an idle main thread, a request is lost exactly if some task is
done between the moment the main thread finds it and the moment it joins it. -/
theorem nothing_is_lost_iff (urlOf : String → Option URL) (diskStorage : URL → Option Picture)
    (as : List LoaderAction) {s : ImageLoader} {log : List LoaderEvent}
    (hrun : (machine urlOf).run (start diskStorage) as = some (s, log)) (hidle : s.main = .idle) :
    lost log = [] ↔
      (machine urlOf).Always (fun s _ s' _ => ¬ Overtakes s s') (start diskStorage) as :=
  nothing_lost_iff_of_not_behind (sound_start diskStorage)
    (not_behind fun _ _ hfound => by cases hfound) hrun hidle

theorem second_cell_is_lost :
    ¬ (machine some).Always (fun s _ s' _ => ¬ Overtakes s s') (start fun _ => none)
      [.configure 0 (.setImage "https://logo"), .run, .run,
        .configure 1 (.setImage "https://logo"), .run, .finish 0 (some 7), .done, .run] := by
  -- The second cell finds the download of the first, and joins it when it is done.
  intro hall
  have hlost := (nothing_is_lost_iff some (fun _ => none) _ rfl rfl).mpr hall
  exact absurd hlost (by decide)

end ImageLoader

end FinanceApp
