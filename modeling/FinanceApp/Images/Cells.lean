import FinanceApp.Images.Requests

/-!
# What the cells show

Answers come late and cells are used again, so an image view has to know which answer is its
own. It knows it by the identifier of its last request.
-/

namespace FinanceApp

/-- The image was at that URL. -/
def Picture.IsOf (url : URL) (image : Picture) : Prop := ∃ body, image = .remote url body

namespace ImageView

variable (urlOf : String → Option URL) (imageView : ImageView)

/-- A cell of an image of the web shows what was there, or nothing. -/
def ShowsRemote : Prop :=
  ∀ {urlString image}, imageView.cellImage = some (.setImage urlString) →
    imageView.image = some image → ∃ url, urlOf urlString = some url ∧ image.IsOf url

/-- A cell of a local image shows it. -/
def ShowsLocal : Prop :=
  ∀ {localImage}, imageView.cellImage = some (.image localImage) →
    imageView.image = localImage.map .localImage

def ShowsOwn : Prop := imageView.ShowsRemote urlOf ∧ imageView.ShowsLocal

/-- Where the cell asks for an image, it asks for that of the URL. -/
def AsksFor (url : URL) : Prop :=
  ∀ {urlString}, imageView.cellImage = some (.setImage urlString) → urlOf urlString = some url

end ImageView

namespace ImageLoader

/-! ## Images keep to their URLs -/

/-- An image is only ever kept, sent or awaited under its own URL. -/
structure Sourced (s : ImageLoader) : Prop where
  memory : ∀ {url image}, s.memoryStorage url = some image → image.IsOf url
  disk : ∀ {url image}, s.diskStorage url = some image → image.IsOf url
  files : ∀ {url image}, IOJob.store url image ∈ s.ioQueue → image.IsOf url
  results : ∀ {result image}, result ∈ s.results → result.image = some image →
    image.IsOf result.request.url
  completing : ∀ {task image sessionTask}, s.completing = some (task, some image) →
    s.sessionTasks[task]? = some sessionTask → image.IsOf sessionTask.url
  callbacks : ∀ {sessionTask}, sessionTask ∈ s.sessionTasks → ∀ request ∈ sessionTask.callbacks,
    request.url = sessionTask.url

variable {s : ImageLoader}

theorem sourced_start {diskStorage : URL → Option Picture}
    (hdisk : ∀ url image, diskStorage url = some image → image.IsOf url) :
    Sourced (start diskStorage) where
  memory h := by cases h
  disk h := hdisk _ _ h
  files h := by cases h
  results h := by cases h
  completing h := by cases h
  callbacks h := by cases h

theorem isOf_update {storage : URL → Option Picture} {key : URL} {stored : Option Picture}
    (hstorage : ∀ {url image}, storage url = some image → Picture.IsOf url image)
    (hstored : ∀ {image}, stored = some image → Picture.IsOf key image) {url : URL}
    {image : Picture} (h : Function.update storage key stored url = some image) :
    image.IsOf url := by
  rw [Function.update_apply] at h
  split at h
  next hurl => exact hurl ▸ hstored h
  next => exact hstorage h

theorem Sourced.append {request : ImageRequest} {task : Nat} (hs : Sound s) (h : Sourced s)
    (main : s.main = .downloadImage request (some task)) :
    Sourced (s.append task request).1 := by
  obtain ⟨joined, hplace, hurl⟩ := hs.found main
  refine ⟨h.memory, h.disk, h.files, h.results, ?_, ?_⟩
  · intro place image sessionTask hcompleting hafter
    obtain ⟨completed, hcompleted, -⟩ := hs.completing hcompleting
    rw [ImageLoader.append, getElem?_modify_sessionTask _ hcompleted] at hafter
    cases hafter
    have himage := h.completing hcompleting hcompleted
    split <;> exact himage
  · intro sessionTask hmem callback hcallback
    obtain ⟨place, hafter⟩ := List.mem_iff_getElem?.mp hmem
    rw [ImageLoader.append, List.getElem?_modify] at hafter
    obtain ⟨before, hbefore, rfl⟩ := Option.map_eq_some_iff.mp hafter
    have hbefore' := h.callbacks (List.mem_of_getElem? hbefore)
    split at hcallback
    next hsame =>
      cases hplace.symm.trans (hsame ▸ hbefore)
      rcases List.mem_append.mp hcallback with hold | hnew
      · rw [if_pos hsame]
        exact hbefore' callback hold
      · rw [if_pos hsame, List.mem_singleton.mp hnew]
        exact hurl.symm
    next hother =>
      rw [if_neg hother]
      exact hbefore' callback hcallback

theorem Sourced.add {request : ImageRequest} (hs : Sound s) (h : Sourced s) :
    Sourced (s.add request) := by
  refine ⟨h.memory, h.disk, h.files, h.results, ?_, ?_⟩
  · intro place image sessionTask hcompleting hafter
    obtain ⟨completed, hcompleted, -⟩ := hs.completing hcompleting
    have hsame : (s.add request).sessionTasks[place]? = some completed :=
      (List.getElem?_append_left (List.getElem?_eq_some_iff.mp hcompleted).1).trans hcompleted
    cases hsame.symm.trans hafter
    exact h.completing hcompleting hcompleted
  · intro sessionTask hmem callback hcallback
    rcases List.mem_append.mp hmem with hold | hnew
    · exact h.callbacks hold callback hcallback
    · cases List.mem_singleton.mp hnew
      rw [List.mem_singleton.mp hcallback]

theorem Sourced.finish {task : Nat} {body : Option Nat} {s' : ImageLoader} (h : Sourced s)
    (hfinish : s.finish task body = some s') : Sourced s' := by
  obtain ⟨sessionTask, -, hplace, -, rfl⟩ := finish_cases hfinish
  refine ⟨h.memory, h.disk, h.files, h.results, ?_, h.callbacks⟩
  intro place image completed hcompleting hafter
  obtain ⟨rfl, himage⟩ := Prod.mk.inj (Option.some.inj hcompleting)
  obtain ⟨bytes, -, rfl⟩ := Option.map_eq_some_iff.mp himage
  cases hplace.symm.trans hafter
  exact ⟨bytes, rfl⟩

theorem Sourced.done {s' : ImageLoader} (h : Sourced s) (hdone : s.done = some s') :
    Sourced s' := by
  obtain ⟨task, image, hcompleting, rfl⟩ := done_cases hdone
  refine ⟨h.memory, h.disk, h.files, ?_, ?_, ?_⟩
  · intro result picture hmem hpicture
    rcases List.mem_append.mp hmem with hold | hnew
    · exact h.results hold hpicture
    · obtain ⟨request, hrequest, rfl⟩ := List.mem_map.mp hnew
      cases hpicture
      unfold ImageLoader.callbacks at hrequest
      split at hrequest
      next sessionTask hplace =>
        rw [h.callbacks (List.mem_of_getElem? hplace) request hrequest]
        exact h.completing hcompleting hplace
      next => cases hrequest
  · intro _ _ _ hnone
    cases hnone
  · intro sessionTask hmem callback hcallback
    obtain ⟨place, hafter⟩ := List.mem_iff_getElem?.mp hmem
    rw [List.getElem?_modify] at hafter
    obtain ⟨before, hbefore, rfl⟩ := Option.map_eq_some_iff.mp hafter
    have hbefore' := h.callbacks (List.mem_of_getElem? hbefore)
    split at hcallback
    next hsame =>
      rw [if_pos hsame]
      exact hbefore' callback hcallback
    next hother =>
      rw [if_neg hother]
      exact hbefore' callback hcallback

theorem Sourced.deliver {place : Nat} {result : ImageResult} (h : Sourced s)
    (waiting : s.results[place]? = some result) : Sourced (s.deliver place result) := by
  have hrest : ∀ {other : ImageResult} {image : Picture}, other ∈ s.results.eraseIdx place →
      other.image = some image → image.IsOf other.request.url :=
    fun hmem => h.results (List.mem_of_mem_eraseIdx hmem)
  unfold ImageLoader.deliver
  dsimp only
  split
  next _ _ image himage _ =>
    have hof := h.results (List.mem_of_getElem? waiting) himage
    refine ⟨isOf_update h.memory ?_, h.disk, ?_, hrest, h.completing, h.callbacks⟩
    · rintro _ ⟨⟩
      exact hof
    · intro url file hmem
      rcases List.mem_append.mp hmem with hold | hnew
      · exact h.files hold
      · cases List.mem_singleton.mp hnew
        exact hof
  next => exact ⟨h.memory, h.disk, h.files, hrest, h.completing, h.callbacks⟩

theorem sourced_step {urlOf : String → Option URL} {a : LoaderAction} {s' : ImageLoader}
    {e : LoaderEvent} (hs : Sound s) (h : Sourced s)
    (hstep : (machine urlOf).step s a = some (s', e)) : Sourced s' := by
  cases moves_of_step hstep with
  | image _ _ _ | noURL _ _ _ _ | setImage _ _ _ _ _ | inMemory _ _ _ _ | found _ _ =>
    exact ⟨h.memory, h.disk, h.files, h.results, h.completing, h.callbacks⟩
  | notInMemory request _ =>
    refine ⟨h.memory, h.disk, ?_, h.results, h.completing, h.callbacks⟩
    intro url image hmem
    rcases List.mem_append.mp hmem with hold | hnew
    · exact h.files hold
    · cases List.mem_singleton.mp hnew
  | append request task main => exact h.append hs main
  | add request _ => exact h.add hs
  | read request jobs image queue stored =>
    have hfiles : ∀ {url : URL} {file : Picture}, IOJob.store url file ∈ jobs →
        file.IsOf url := fun hmem => h.files (queue ▸ List.mem_cons_of_mem _ hmem)
    refine ⟨isOf_update h.memory ?_, h.disk, hfiles, ?_, h.completing, h.callbacks⟩
    · intro picture hpicture
      rcases Option.or_eq_some_iff.mp hpicture with hread | ⟨-, hkept⟩
      · exact h.disk (stored picture hread)
      · exact h.memory hkept
    · intro result picture hmem hpicture
      rcases List.mem_append.mp hmem with hold | hnew
      · exact h.results hold hpicture
      · cases List.mem_singleton.mp hnew
        exact h.disk (stored picture hpicture)
  | write url image jobs succeeds queue =>
    have hfiles : ∀ {url : URL} {file : Picture}, IOJob.store url file ∈ jobs →
        file.IsOf url := fun hmem => h.files (queue ▸ List.mem_cons_of_mem _ hmem)
    have hfile : image.IsOf url := h.files (queue ▸ List.mem_cons_self)
    refine ⟨h.memory, isOf_update h.disk ?_, hfiles, h.results, h.completing, h.callbacks⟩
    intro picture hpicture
    split at hpicture
    next =>
      cases hpicture
      exact hfile
    next => exact h.disk hpicture
  | finish task body _ hfinish => exact h.finish hfinish
  | done _ hdone => exact h.done hdone
  | deliver place result _ waiting => exact h.deliver waiting
  | evict memoryStorage diskStorage memory disk =>
    exact ⟨fun hurl => h.memory (memory _ _ hurl), fun hurl => h.disk (disk _ _ hurl), h.files,
      h.results, h.completing, h.callbacks⟩

/-! ## Requests and their views -/

theorem setView_views (view other : Nat) (f : ImageView → ImageView) :
    (s.setView view f).views other = if other = view then f (s.views other) else s.views other := by
  show Function.update s.views view (f (s.views view)) other = _
  rw [Function.update_apply]
  split
  next hsame => rw [hsame]
  next => rfl

/-- What a view waits for in the second state, it waited for in the first, and for the same
cell, if its cell is of the web. -/
def StillAsks (before after : ImageView) : Prop :=
  ∀ {identifier}, after.taskIdentifier = some identifier →
    before.taskIdentifier = some identifier ∧
      ∀ {urlString}, after.cellImage = some (.setImage urlString) →
        before.cellImage = some (.setImage urlString)

/-- A waiting request that is the last one of its view is for what the cell asks for, and
while the main thread is in `setImage` no other image is given to its view. -/
structure Asked (urlOf : String → Option URL) (s : ImageLoader) : Prop where
  fresh : ∀ request ∈ s.pending, request.issuedIdentifier ≤ s.currentIdentifier
  asked : ∀ request ∈ s.pending,
    (s.views request.view).taskIdentifier = some request.issuedIdentifier →
      (s.views request.view).AsksFor urlOf request.url
  main : ∀ request ∈ s.main.requests,
    ∃ urlString, (s.views request.view).cellImage = some (.setImage urlString)

theorem StillAsks.refl (imageView : ImageView) : StillAsks imageView imageView :=
  fun h => ⟨h, fun h => h⟩

theorem stillAsks_complete (request : ImageRequest) (image : Option Picture) (view : Nat) :
    StillAsks (s.views view) ((s.complete request image).views view) := by
  rw [complete, setView_views]
  split
  next =>
    split
    next =>
      intro _ h
      cases h
    next => exact StillAsks.refl _
  next => exact StillAsks.refl _

theorem mem_pending_step {urlOf : String → Option URL} {a : LoaderAction} {s' : ImageLoader}
    {e : LoaderEvent} {request : ImageRequest} (hs : Sound s)
    (hstep : (machine urlOf).step s a = some (s', e)) (hmem : request ∈ s'.pending) :
    request ∈ s.pending ∨ request ∈ e.issues := by
  have hbalance := pending_step hs hstep
  have : request ∈ s'.pending + (e.settles : Multiset ImageRequest) :=
    Multiset.mem_add.mpr (.inl hmem)
  rw [← hbalance] at this
  exact (Multiset.mem_add.mp this).imp_right Multiset.mem_coe.mp

theorem Asked.of_views {urlOf : String → Option URL} {s' : ImageLoader} (h : Asked urlOf s)
    (hpending : ∀ request ∈ s'.pending, request ∈ s.pending)
    (hcurrent : s'.currentIdentifier = s.currentIdentifier)
    (hviews : ∀ view, StillAsks (s.views view) (s'.views view))
    (hmain : s'.main.requests = [] ∨
      s'.main.requests = s.main.requests ∧ s'.views = s.views) : Asked urlOf s' := by
  refine ⟨?_, ?_, ?_⟩
  · intro request hmem
    rw [hcurrent]
    exact h.fresh request (hpending request hmem)
  · intro request hmem hidentifier urlString hcell
    obtain ⟨hbefore, hcells⟩ := hviews request.view hidentifier
    exact h.asked request (hpending request hmem) hbefore (hcells hcell)
  · intro request hmem
    rcases hmain with hnone | ⟨hsame, hviews'⟩
    · rw [hnone] at hmem
      cases hmem
    · rw [hviews']
      exact h.main request (hsame ▸ hmem)

theorem views_setImage {view other : Nat} {urlString : String} {url : URL} :
    ((s.configured view (.setImage urlString)).setImage view (some url)).1.views other =
      if other = view then
        { image := none, taskIdentifier := some (s.currentIdentifier + 1),
          cellImage := some (.setImage urlString) }
      else s.views other := by
  show ((s.configured view (.setImage urlString)).setView view fun imageView =>
    { imageView with image := none, taskIdentifier := some (s.currentIdentifier + 1) }).views
      other = _
  rw [setView_views, configured, setView_views]
  split <;> rfl

theorem views_noURL {view other : Nat} {urlString : String} :
    ((s.configured view (.setImage urlString)).setImage view none).1.views other =
      if other = view then { cellImage := some (.setImage urlString) } else s.views other := by
  show ((s.configured view (.setImage urlString)).setView view fun imageView =>
    { imageView with image := none, taskIdentifier := none }).views other = _
  rw [setView_views, configured, setView_views]
  split <;> rfl

theorem views_image {urlOf : String → Option URL} {view other : Nat}
    {localImage : Option String} :
    (s.configure urlOf view (.image localImage)).1.views other =
      if other = view then
        { s.views other with
          image := localImage.map .localImage
          cellImage := some (.image localImage) }
      else s.views other := by
  show ((s.configured view (.image localImage)).setView view fun imageView =>
    { imageView with image := localImage.map .localImage }).views other = _
  rw [setView_views, configured, setView_views]
  split <;> rfl

theorem Asked.setImage {urlOf : String → Option URL} {view : Nat} {urlString : String} {url : URL}
    {s' : ImageLoader} {request : ImageRequest} (h : Asked urlOf s)
    (good : urlOf urlString = some url)
    (hrequest : request = { view, url, issuedIdentifier := s.currentIdentifier + 1 })
    (hs' : s' = ((s.configured view (.setImage urlString)).setImage view (some url)).1)
    (hpending : ∀ other ∈ s'.pending, other ∈ s.pending ∨ other = request) :
    Asked urlOf s' := by
  subst hs' hrequest
  refine ⟨?_, ?_, ?_⟩
  · intro other hmem
    rcases hpending other hmem with hold | rfl
    · exact (h.fresh other hold).trans (Nat.le_succ _)
    · exact le_rfl
  · intro other hmem
    rw [views_setImage]
    rcases hpending other hmem with hold | rfl
    · split
      next =>
        intro hsame
        have := h.fresh other hold
        have := Option.some.inj hsame
        omega
      next => exact h.asked other hold
    · intro _ urlString' hcell
      rw [if_pos rfl] at hcell
      cases hcell
      exact good
  · intro other hmem
    cases List.mem_singleton.mp hmem
    exact ⟨urlString, by rw [views_setImage, if_pos rfl]⟩

theorem asked_step {urlOf : String → Option URL} {a : LoaderAction} {s' : ImageLoader}
    {e : LoaderEvent} (hs : Sound s) (h : Asked urlOf s)
    (hstep : (machine urlOf).step s a = some (s', e)) : Asked urlOf s' := by
  have hpending : ∀ request ∈ s'.pending, request ∈ s.pending ∨ request ∈ e.issues :=
    fun _ => mem_pending_step hs hstep
  have hold : e.issues = [] → ∀ request ∈ s'.pending, request ∈ s.pending := by
    intro hnone request hmem
    rcases hpending request hmem with hmem' | hmem'
    · exact hmem'
    · rw [hnone] at hmem'
      cases hmem'
  have hcurrent : e.issues = [] → s'.currentIdentifier = s.currentIdentifier := by
    intro hnone
    rcases issues_step hstep with ⟨-, hsame⟩ | ⟨request, rfl, -⟩
    · exact hsame
    · cases hnone
  have hidle : s.main = .idle → s.main.requests = [] := by
    intro idle
    rw [idle]
    rfl
  cases moves_of_step hstep with
  | image view localImage idle =>
    refine h.of_views (hold rfl) rfl ?_ (.inl (hidle idle))
    intro other
    rw [views_image]
    split
    next => exact fun hid => ⟨hid, by simp⟩
    next => exact StillAsks.refl _
  | noURL view urlString idle _ =>
    refine h.of_views (hold rfl) rfl ?_ (.inl (hidle idle))
    intro other
    rw [views_noURL]
    split
    next => exact fun hid => by cases hid
    next => exact StillAsks.refl _
  | setImage view urlString url idle good =>
    exact h.setImage good rfl rfl fun other hmem =>
      (hpending other hmem).imp_right List.mem_singleton.mp
  | inMemory request image _ _ =>
    exact h.of_views (hold rfl) rfl (stillAsks_complete request _) (.inl rfl)
  | notInMemory request _ | add request _ =>
    exact h.of_views (hold rfl) rfl (fun _ => StillAsks.refl _) (.inl rfl)
  | found request main =>
    exact h.of_views (hold rfl) rfl (fun _ => StillAsks.refl _) (.inr ⟨by rw [main]; rfl, rfl⟩)
  | append request task _ =>
    exact h.of_views (hold (issues_append task request)) rfl (fun _ => StillAsks.refl _) (.inl rfl)
  | read _ _ _ _ _ | write _ _ _ _ _ | evict _ _ _ _ =>
    exact h.of_views (hold rfl) rfl (fun _ => StillAsks.refl _) (.inr ⟨rfl, rfl⟩)
  | finish task body _ hfinish =>
    obtain ⟨hmain, -, hviews⟩ := finish_keeps hfinish
    refine h.of_views (hold rfl) (hcurrent rfl) ?_ (.inr ⟨by rw [hmain], hviews⟩)
    intro other
    rw [hviews]
    exact StillAsks.refl _
  | done _ hdone =>
    obtain ⟨hmain, hviews⟩ := done_keeps hdone
    refine h.of_views (hold rfl) (hcurrent rfl) ?_ (.inr ⟨by rw [hmain], hviews⟩)
    intro other
    rw [hviews]
    exact StillAsks.refl _
  | deliver place result idle _ =>
    refine h.of_views (hold rfl) (hcurrent rfl) ?_ (.inl ?_)
    · rw [deliver_views]
      exact stillAsks_complete result.request result.image
    · rw [deliver_main]
      exact hidle idle

theorem mem_pending_of_main {request : ImageRequest} (h : request ∈ s.main.requests) :
    request ∈ s.pending :=
  Multiset.mem_add.mpr (.inl (Multiset.mem_coe.mpr h))

theorem mem_pending_of_results {result : ImageResult} (h : result ∈ s.results) :
    result.request ∈ s.pending := by
  refine Multiset.mem_add.mpr (.inr (Multiset.mem_add.mpr (.inl (Multiset.mem_add.mpr (.inr ?_)))))
  exact Multiset.mem_coe.mpr (List.mem_map_of_mem h)

/-! ## Every cell shows its own image -/

/-- The event gives a view an image of the web that it asked for, though its cell has been
given a local image since. -/
def Misplaces (s : ImageLoader) (e : LoaderEvent) : Prop :=
  ∃ request image localImage, e = .answered request (some image) ∧
    (s.views request.view).taskIdentifier = some request.issuedIdentifier ∧
    (s.views request.view).cellImage = some (.image localImage)

theorem showsRemote_complete {urlOf : String → Option URL} {request : ImageRequest}
    {image : Option Picture} (h : ∀ view, (s.views view).ShowsRemote urlOf)
    (hasks : (s.views request.view).taskIdentifier = some request.issuedIdentifier →
      (s.views request.view).AsksFor urlOf request.url)
    (himage : ∀ picture, image = some picture → picture.IsOf request.url) (view : Nat) :
    ((s.complete request image).views view).ShowsRemote urlOf := by
  rw [complete, setView_views]
  split
  next hview =>
    subst hview
    split
    next hidentifier =>
      intro urlString picture hcell hshown
      rcases Option.or_eq_some_iff.mp hshown with hnew | ⟨-, hold⟩
      · exact ⟨request.url, hasks hidentifier hcell, himage picture hnew⟩
      · exact h request.view hcell hold
    next => exact h request.view
  next => exact h view

theorem showsLocal_complete {request : ImageRequest} {image : Option Picture}
    (h : ∀ view, (s.views view).ShowsLocal)
    (hlocal : (s.views request.view).taskIdentifier = some request.issuedIdentifier →
      ∀ {localImage}, (s.views request.view).cellImage = some (.image localImage) → image = none)
    (view : Nat) : ((s.complete request image).views view).ShowsLocal := by
  rw [complete, setView_views]
  split
  next hview =>
    subst hview
    split
    next hidentifier =>
      intro localImage hcell
      show image.or (s.views request.view).image = _
      rw [hlocal hidentifier hcell, Option.none_or]
      exact h request.view hcell
    next => exact h request.view
  next => exact h view

theorem views_step {urlOf : String → Option URL} {a : LoaderAction} {s' : ImageLoader}
    {e : LoaderEvent} (hstep : (machine urlOf).step s a = some (s', e)) :
    (s'.views = s.views ∧ ∀ request image, e ≠ .answered request image) ∨
      (∃ view localImage, s'.views = (s.configure urlOf view (.image localImage)).1.views ∧
        ∀ request image, e ≠ .answered request image) ∨
      (∃ view urlString url,
        s'.views = ((s.configured view (.setImage urlString)).setImage view url).1.views ∧
        ∀ request image, e ≠ .answered request image) ∨
      ∃ request image, e = .answered request image ∧
        s'.views = (s.complete request image).views ∧
        ((∃ result ∈ s.results, result.request = request ∧ result.image = image) ∨
          request ∈ s.main.requests ∧ image = s.memoryStorage request.url) := by
  cases moves_of_step hstep with
  | image view localImage _ => exact .inr (.inl ⟨view, localImage, rfl, by simp⟩)
  | noURL view urlString _ _ => exact .inr (.inr (.inl ⟨view, urlString, none, rfl, by simp⟩))
  | setImage view urlString url _ _ =>
    exact .inr (.inr (.inl ⟨view, urlString, some url, rfl, by simp⟩))
  | inMemory request image main cached =>
    refine .inr (.inr (.inr ⟨request, some image, rfl, rfl, .inr ⟨?_, cached.symm⟩⟩))
    rw [main]
    exact List.mem_singleton_self request
  | notInMemory _ _ | found _ _ | add _ _ | read _ _ _ _ _ | write _ _ _ _ _ | evict _ _ _ _ =>
    exact .inl ⟨rfl, by simp⟩
  | append request task _ =>
    refine .inl ⟨rfl, ?_⟩
    unfold ImageLoader.append
    dsimp only
    split <;> simp
  | finish task body _ hfinish => exact .inl ⟨(finish_keeps hfinish).2.2, by simp⟩
  | done _ hdone => exact .inl ⟨(done_keeps hdone).2, by simp⟩
  | deliver place result _ waiting =>
    exact .inr (.inr (.inr ⟨result.request, result.image, rfl, deliver_views s place result,
      .inl ⟨result, List.mem_of_getElem? waiting, rfl, rfl⟩⟩))

theorem answer_of_step {urlOf : String → Option URL} {request : ImageRequest}
    {image : Option Picture} (hsourced : Sourced s) (h : Asked urlOf s)
    (hanswer : (∃ result ∈ s.results, result.request = request ∧ result.image = image) ∨
      request ∈ s.main.requests ∧ image = s.memoryStorage request.url) :
    ((s.views request.view).taskIdentifier = some request.issuedIdentifier →
      (s.views request.view).AsksFor urlOf request.url) ∧
    ∀ picture, image = some picture → picture.IsOf request.url := by
  rcases hanswer with ⟨result, hmem, rfl, rfl⟩ | ⟨hmem, rfl⟩
  · exact ⟨h.asked _ (mem_pending_of_results hmem), fun _ => hsourced.results hmem⟩
  · exact ⟨h.asked _ (mem_pending_of_main hmem), fun _ => hsourced.memory⟩

theorem showsRemote_step {urlOf : String → Option URL} {a : LoaderAction} {s' : ImageLoader}
    {e : LoaderEvent} (hsourced : Sourced s) (hasked : Asked urlOf s)
    (h : ∀ view, (s.views view).ShowsRemote urlOf)
    (hstep : (machine urlOf).step s a = some (s', e)) (view : Nat) :
    (s'.views view).ShowsRemote urlOf := by
  rcases views_step hstep with ⟨hviews, -⟩ | ⟨other, localImage, hviews, -⟩ |
    ⟨other, urlString, url, hviews, -⟩ | ⟨request, image, -, hviews, hanswer⟩
  · rw [hviews]
    exact h view
  · rw [hviews, views_image]
    split
    next => exact fun hcell => by cases hcell
    next => exact h view
  · rw [hviews]
    cases url with
    | none =>
      rw [views_noURL]
      split
      next => exact fun _ hshown => by cases hshown
      next => exact h view
    | some url =>
      rw [views_setImage]
      split
      next => exact fun _ hshown => by cases hshown
      next => exact h view
  · rw [hviews]
    obtain ⟨hasks, himage⟩ := answer_of_step hsourced hasked hanswer
    exact showsRemote_complete h hasks himage view

theorem showsLocal_step {urlOf : String → Option URL} {a : LoaderAction} {s' : ImageLoader}
    {e : LoaderEvent} (h : ∀ view, (s.views view).ShowsLocal) (hplaced : ¬ Misplaces s e)
    (hstep : (machine urlOf).step s a = some (s', e)) (view : Nat) :
    (s'.views view).ShowsLocal := by
  rcases views_step hstep with ⟨hviews, -⟩ | ⟨other, localImage, hviews, -⟩ |
    ⟨other, urlString, url, hviews, -⟩ | ⟨request, image, rfl, hviews, -⟩
  · rw [hviews]
    exact h view
  · rw [hviews, views_image]
    split
    next =>
      intro localImage' hcell
      cases hcell
      rfl
    next => exact h view
  · rw [hviews]
    cases url with
    | none =>
      rw [views_noURL]
      split
      next => exact fun hcell => by cases hcell
      next => exact h view
    | some url =>
      rw [views_setImage]
      split
      next => exact fun hcell => by cases hcell
      next => exact h view
  · rw [hviews]
    refine showsLocal_complete h (fun hidentifier localImage hcell => ?_) view
    cases image with
    | none => rfl
    | some picture =>
      exact absurd ⟨request, picture, localImage, rfl, hidentifier, hcell⟩ hplaced

theorem Misplaces.not_showsLocal {urlOf : String → Option URL} {a : LoaderAction}
    {s' : ImageLoader} {e : LoaderEvent} (hsourced : Sourced s) (hasked : Asked urlOf s)
    (h : Misplaces s e) (hstep : (machine urlOf).step s a = some (s', e)) :
    ∃ view, ¬ (s'.views view).ShowsLocal := by
  obtain ⟨request, picture, localImage, rfl, hidentifier, hcell⟩ := h
  rcases views_step hstep with ⟨-, hno⟩ | ⟨-, -, -, hno⟩ | ⟨-, -, -, -, hno⟩ |
    ⟨_, _, heq, hviews, hanswer⟩
  · exact absurd rfl (hno request (some picture))
  · exact absurd rfl (hno request (some picture))
  · exact absurd rfl (hno request (some picture))
  · obtain ⟨rfl, rfl⟩ := LoaderEvent.answered.inj heq
    obtain ⟨body, rfl⟩ := (answer_of_step hsourced hasked hanswer).2 picture rfl
    refine ⟨request.view, fun hlocal => ?_⟩
    have hview : s'.views request.view =
        { s.views request.view with
          taskIdentifier := none, image := some (.remote request.url body) } := by
      rw [hviews, complete, setView_views, if_pos rfl, if_pos hidentifier]
      rfl
    have hshown := @hlocal localImage (by rw [hview]; exact hcell)
    rw [hview] at hshown
    cases localImage with
    | none => cases hshown
    | some name => cases hshown

/-- What all runs keep. -/
structure Kept (urlOf : String → Option URL) (s : ImageLoader) : Prop where
  sound : Sound s
  sourced : Sourced s
  asked : Asked urlOf s
  showsRemote : ∀ view, (s.views view).ShowsRemote urlOf

theorem kept_start {urlOf : String → Option URL} {diskStorage : URL → Option Picture}
    (hdisk : ∀ url image, diskStorage url = some image → image.IsOf url) :
    Kept urlOf (start diskStorage) where
  sound := sound_start diskStorage
  sourced := sourced_start hdisk
  asked :=
    { fresh := fun request hmem => by cases hmem
      asked := fun request hmem => by cases hmem
      main := fun request hmem => by cases hmem }
  showsRemote _ := fun hcell => by cases hcell

theorem Kept.step {urlOf : String → Option URL} {a : LoaderAction} {s' : ImageLoader}
    {e : LoaderEvent} (h : Kept urlOf s) (hstep : (machine urlOf).step s a = some (s', e)) :
    Kept urlOf s' :=
  ⟨sound_step h.sound hstep, sourced_step h.sound h.sourced hstep, asked_step h.sound h.asked hstep,
    showsRemote_step h.sourced h.asked h.showsRemote hstep⟩

/-- In every run, in whatever order answers come and cells are used again, a cell that asks
for an image of the web shows nothing or what was at its own URL, and the files that the next
process finds are under their URLs if those were that this one found. -/
theorem remote_images_are_own (urlOf : String → Option URL) (diskStorage : URL → Option Picture)
    (hdisk : ∀ url image, diskStorage url = some image → image.IsOf url)
    (as : List LoaderAction) {s : ImageLoader} {log : List LoaderEvent}
    (hrun : (machine urlOf).run (start diskStorage) as = some (s, log)) :
    (∀ view, (s.views view).ShowsRemote urlOf) ∧
      ∀ url image, s.diskStorage url = some image → image.IsOf url := by
  have h := (machine urlOf).run_invariant Kept.step (kept_start hdisk) hrun
  exact ⟨h.showsRemote, fun _ _ => h.sourced.disk⟩

/-- The file of one logo, from the process before. -/
def logoFiles (url : URL) : Option Picture :=
  if url = "https://a" then some (.remote "https://a" 3) else none

theorem logoFiles_isOf (url : URL) (image : Picture) (h : logoFiles url = some image) :
    image.IsOf url := by
  unfold logoFiles at h
  split at h
  next ha =>
    cases h
    exact ⟨3, by rw [ha]⟩
  next => cases h

/-- One cell gets the logo of the file and another one downloads its own. Then the first cell
is used again for the downloaded logo, which is in the memory. -/
def twoLogos : List LoaderAction :=
  [.configure 0 (FinanceAssetRowAdapter.cellImage "https://a"), .run,
    .configure 1 (FinanceAccountRowAdapter.cellImage "https://b"), .run, .run,
    .io true, .finish 0 (some 7), .done, .deliver 0, .deliver 0, .io true,
    .configure 0 (FinanceAssetRowAdapter.cellImage "https://b"), .run]

theorem two_logos_are_own :
    ∃ s log, (machine some).run (start logoFiles) twoLogos = some (s, log) ∧
      log.filter (fun e => e.answers ≠ []) =
        [.answered ⟨0, "https://a", 1⟩ (some (.remote "https://a" 3)),
          .answered ⟨1, "https://b", 2⟩ (some (.remote "https://b" 7)),
          .answered ⟨0, "https://b", 3⟩ (some (.remote "https://b" 7))] ∧
      (s.views 0).image = some (.remote "https://b" 7) ∧
      (s.views 1).image = some (.remote "https://b" 7) ∧
      s.diskStorage "https://a" = some (.remote "https://a" 3) ∧
      s.diskStorage "https://b" = some (.remote "https://b" 7) ∧
      (∀ view, (s.views view).ShowsRemote some) ∧
      ∀ url image, s.diskStorage url = some image → image.IsOf url :=
  ⟨_, _, rfl, by decide, rfl, rfl, rfl, rfl,
    remote_images_are_own some logoFiles logoFiles_isOf twoLogos rfl⟩

/-- In every run all cells always show their own images exactly if no answer with an image
reaches a cell that asked for it and has been given a local image since. -/
theorem cells_show_own_iff (urlOf : String → Option URL) (diskStorage : URL → Option Picture)
    (hdisk : ∀ url image, diskStorage url = some image → image.IsOf url)
    (as : List LoaderAction) :
    (machine urlOf).Always (fun _ _ s' _ => ∀ view, (s'.views view).ShowsOwn urlOf)
        (start diskStorage) as ↔
      (machine urlOf).Always (fun s _ _ e => ¬ Misplaces s e) (start diskStorage) as := by
  refine (machine urlOf).always_congr_until
    (I := fun s => Kept urlOf s ∧ ∀ view, (s.views view).ShowsLocal) ?_ ?_ ?_
  · exact ⟨kept_start hdisk, fun _ _ hcell => by cases hcell⟩
  · rintro s a s' e ⟨hkept, hlocal⟩ hstep hplaced
    exact ⟨hkept.step hstep, showsLocal_step hlocal hplaced hstep⟩
  · rintro s a s' e ⟨hkept, hlocal⟩ hstep
    constructor
    · intro hown hmisplaced
      obtain ⟨view, hother⟩ := hmisplaced.not_showsLocal hkept.sourced hkept.asked hstep
      exact hother (hown view).2
    · intro hplaced view
      exact ⟨(hkept.step hstep).showsRemote view, showsLocal_step hlocal hplaced hstep view⟩

theorem storefront_icon_is_replaced :
    ¬ (machine some).Always (fun _ _ s' _ => ∀ view, (s'.views view).ShowsOwn some)
      (start fun _ => none)
      [.configure 0 (TransactionsRowAdapter.cellImage "https://logo"), .run, .run,
        .configure 0 (TransactionsRowAdapter.cellImage ""), .finish 0 (some 7), .done,
        .deliver 0] := by
  -- The icon of a store without logo is replaced by the logo of the store that was in the cell
  -- before.
  intro hown
  have hplaced := (cells_show_own_iff some (fun _ => none) (by simp) _).mp hown
  refine hplaced [.configure 0 (TransactionsRowAdapter.cellImage "https://logo"), .run, .run,
    .configure 0 (TransactionsRowAdapter.cellImage ""), .finish 0 (some 7), .done]
    (.deliver 0) [] _ _ _ _ rfl rfl rfl ?_
  exact ⟨⟨0, "https://logo", 1⟩, .remote "https://logo" 7, some "storefront-icon", rfl, rfl, rfl⟩

end ImageLoader

end FinanceApp
