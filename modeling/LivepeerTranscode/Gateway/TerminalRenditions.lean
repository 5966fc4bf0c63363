import LivepeerTranscode.Gateway.JobReplay

/-!
# The renditions of an accepted terminal

Both VOD services compare the coordinates of a terminal with those of the request before the job
is settled, and map its renditions to rows afterwards. The comparison asks for as many renditions
as were requested and looks every name up, so a name may stand for another one and any rendition
may come with or without video.
-/

namespace LivepeerTranscode.Gateway
open Checked Interaction JsonText
set_option autoImplicit false

/-! ## What is accepted and what is completed -/

/-- The callback of a job returns the terminal of a body. -/
def PaidJobRequest.Accepts (job : PaidJobRequest AbrTerminalResult) (body : List UInt8)
    (settlement : PaidJobSettlement) (terminal : AbrTerminalResult) : Prop :=
  ∃ validate, job.validateTerminal = some validate ∧ (validate body settlement).run = .pure (.ok terminal)

def AbrTerminalResult.names (terminal : AbrTerminalResult) : List String :=
  terminal.renditions.map TerminalRenditionWire.name

def AbrTerminalResult.MarksVideo (terminal : AbrTerminalResult) : Prop :=
  ∀ rendition ∈ terminal.renditions, rendition.video.isSome = true ↔ rendition.name ≠ "audio-only"

/-- The requested renditions, each once, with video for exactly the video renditions. -/
def ExactRenditions (requested : List (JsString × AbrDestinations)) (terminal : AbrTerminalResult) : Prop :=
  (terminal.names.map js).Perm (requested.map Prod.fst) ∧ terminal.MarksVideo

def RowsRequested (requested : List (JsString × AbrDestinations)) (rows : List (String × String)) : Prop :=
  (rows.map fun row => js row.1).Perm ((requested.map Prod.fst).filter (· ≠ js "audio-only"))

structure WaitingRows (table : Table RenditionRow) (assetId : String) (rows : List (String × String)) :
    Prop where
  ids : (rows.map Prod.snd).Nodup
  waiting : ∀ row ∈ rows, ∃ rendition, table.lookup row.2 = some rendition ∧ rendition.assetId = assetId ∧
    (rendition.status = "queued" ∨ rendition.status = "running")

section
variable (pg : Postgres)

/-- Every rendition with video has a row, every row a rendition, and the rows are completed. -/
def CompletesRenditions (rows : List (String × String)) (assetId : String) (durationSeconds : ℚ)
    (terminal : AbrTerminalResult) : Prop :=
  ∃ completed, completedRenditions rows durationSeconds terminal = some completed ∧
    completed.length = rows.length ∧
    ∀ (value : PaidVodTerminal) (table : Table RenditionRow), value.assetId = assetId →
      (pg.thousandths durationSeconds).isSome = true → WaitingRows table assetId rows →
      ∃ table', completeRenditions pg value completed table = .ok table'

end

/-! ## Accepted terminals -/

section
variable {P : Platform} {requested : List (JsString × AbrDestinations)} {terminal : AbrTerminalResult}

/-- As many renditions as were requested, every one under a requested name. -/
structure Listed (requested : List (JsString × AbrDestinations)) (terminal : AbrTerminalResult) : Prop where
  length : terminal.names.length = requested.length
  names : ∀ name ∈ terminal.names, js name ∈ requested.map Prod.fst

theorem mem_of_lookup {α β : Type} [BEq α] [LawfulBEq α] {key : α} {value : β} {entries : List (α × β)}
    (h : entries.lookup key = some value) : (key, value) ∈ entries := by
  obtain ⟨before, after, rfl, -⟩ := List.lookup_eq_some_iff.mp h
  exact List.mem_append_right before List.mem_cons_self

theorem name_requested {rendition : TerminalRenditionWire} (h : coordinatesMatch requested rendition = true) :
    js rendition.name ∈ requested.map Prod.fst := by
  unfold coordinatesMatch at h
  cases hfound : requested.lookup (js rendition.name) with
  | none =>
    rw [hfound] at h
    cases h
  | some expected => exact List.mem_map_of_mem (mem_of_lookup hfound)

theorem terminalCheck_listed {message : String} {expected : TerminalExpectation} {manifest : JsString}
    {body : List UInt8} {settlement : PaidJobSettlement}
    (h : (terminalCheck P message expected manifest requested body settlement).run = .pure (.ok terminal)) :
    Listed requested terminal := by
  have hkeeps : Keeps (fun _ _ => True)
      (fun _ terminal => validateCoordinates message manifest requested terminal = .ok ())
      (terminalCheck P message expected manifest requested body settlement) [] := by
    refine Keeps.lift.bind ?_
    rintro _ found ⟨rfl, -⟩
    refine Keeps.lift.bind ?_
    rintro _ _ ⟨rfl, hchecked⟩
    exact .pure hchecked
  unfold Keeps at hkeeps
  rw [h] at hkeeps
  have hchecked := hkeeps terminal rfl
  simp only [validateCoordinates, failWhen_ok_iff, not_or, not_not] at hchecked
  obtain ⟨-, hlength, hall⟩ := hchecked
  refine ⟨by simpa [AbrTerminalResult.names] using hlength, ?_⟩
  intro name hname
  obtain ⟨rendition, hrendition, rfl⟩ := List.mem_map.mp hname
  exact name_requested (List.all_eq_true.mp hall rendition hrendition)

theorem Listed.perm_iff (h : Listed requested terminal) (hrequested : (requested.map Prod.fst).Nodup) :
    (terminal.names.map js).Perm (requested.map Prod.fst) ↔ terminal.names.Nodup := by
  constructor
  · intro hperm
    exact List.Nodup.of_map js (hperm.nodup_iff.mpr hrequested)
  · intro hnodup
    have hsub : terminal.names.map js ⊆ requested.map Prod.fst := by
      intro key hkey
      obtain ⟨name, hname, rfl⟩ := List.mem_map.mp hkey
      exact h.names name hname
    refine (List.subperm_of_subset (hnodup.map js_injective) hsub).perm_of_length_le ?_
    simp [h.length]

/-! ## The rows -/

theorem mapM_some_iff {α β : Type} {f : α → Option β} {as : List α} {bs : List β} :
    as.mapM f = some bs ↔ as.map f = bs.map some := by
  induction as generalizing bs with
  | nil => cases bs <;> simp
  | cons a as ih =>
    cases bs with
    | nil => simp [Option.bind_eq_some_iff]
    | cons b bs =>
      simp [Option.bind_eq_some_iff, ih]

variable {rows : List (String × String)} {durationSeconds : ℚ} {completed : List TerminalRendition}

def AbrTerminalResult.videoNames (terminal : AbrTerminalResult) : List String :=
  (terminal.renditions.filter fun rendition => rendition.video.isSome).map TerminalRenditionWire.name

theorem completedRenditions_rows
    (h : completedRenditions rows durationSeconds terminal = some completed) :
    (terminal.videoNames.map fun name => rows.lookup name) = completed.map fun rendition => some rendition.renditionId := by
  rw [completedRenditions, mapM_some_iff] at h
  have hids := congrArg (List.map (Option.map TerminalRendition.renditionId)) h
  simpa [AbrTerminalResult.videoNames, Function.comp_def] using hids

theorem videoNames_perm (hexact : ExactRenditions requested terminal) :
    (terminal.videoNames.map js).Perm ((requested.map Prod.fst).filter (· ≠ js "audio-only")) := by
  have hvideo : terminal.videoNames.map js = (terminal.names.map js).filter (· ≠ js "audio-only") := by
    rw [AbrTerminalResult.videoNames, AbrTerminalResult.names, List.map_map, List.map_map, List.filter_map]
    refine congrArg _ (List.filter_congr ?_)
    intro rendition hrendition
    have hmarked := hexact.2 rendition hrendition
    by_cases hname : rendition.name = "audio-only"
    · simp_all
    · simp_all [js_injective.eq_iff]
  rw [hvideo]
  exact hexact.1.filter _

theorem videoNames_nodup (hexact : ExactRenditions requested terminal)
    (hrequested : (requested.map Prod.fst).Nodup) : terminal.videoNames.Nodup :=
  List.Nodup.of_map js ((videoNames_perm hexact).nodup_iff.mpr (hrequested.filter _))

theorem rowsRequested_of_completed (hexact : ExactRenditions requested terminal)
    (hrequested : (requested.map Prod.fst).Nodup)
    (hcompleted : completedRenditions rows durationSeconds terminal = some completed)
    (hlength : completed.length = rows.length) : RowsRequested requested rows := by
  have hrows := completedRenditions_rows hcompleted
  have hsub : terminal.videoNames ⊆ rows.map Prod.fst := by
    intro name hname
    have hlookup := List.mem_map_of_mem (f := fun name => rows.lookup name) hname
    rw [hrows] at hlookup
    obtain ⟨done, -, hdone⟩ := List.mem_map.mp hlookup
    exact List.mem_map_of_mem (mem_of_lookup hdone.symm)
  have hperm : terminal.videoNames.Perm (rows.map Prod.fst) := by
    refine (List.subperm_of_subset (videoNames_nodup hexact hrequested) hsub).perm_of_length_le ?_
    have hcount := congrArg List.length hrows
    rw [List.length_map, List.length_map] at hcount
    rw [List.length_map, ← hlength, hcount]
  have hnames := (hperm.map js).symm.trans (videoNames_perm hexact)
  rwa [List.map_map] at hnames

theorem lookup_of_key {key : String} (h : key ∈ rows.map Prod.fst) : ∃ id, rows.lookup key = some id := by
  cases hfound : rows.lookup key with
  | some id => exact ⟨id, rfl⟩
  | none =>
    obtain ⟨row, hrow, rfl⟩ := List.mem_map.mp h
    simpa using List.lookup_eq_none_iff.mp hfound row hrow

theorem completedRenditions_duration
    (h : completedRenditions rows durationSeconds terminal = some completed) :
    ∀ rendition ∈ completed, rendition.durationSeconds = durationSeconds := by
  intro rendition hmem
  rw [completedRenditions, mapM_some_iff] at h
  have hfound := List.mem_map_of_mem (f := some) hmem
  rw [← h] at hfound
  obtain ⟨wire, -, hwire⟩ := List.mem_map.mp hfound
  obtain ⟨id, -, rfl⟩ := Option.map_eq_some_iff.mp hwire
  rfl

theorem mapM_of_forall {α β : Type} {f : α → Option β} {as : List α} (h : ∀ a ∈ as, ∃ b, f a = some b) :
    ∃ bs, as.mapM f = some bs := by
  induction as with
  | nil => exact ⟨[], rfl⟩
  | cons a as ih =>
    obtain ⟨b, hb⟩ := h a List.mem_cons_self
    obtain ⟨bs, hbs⟩ := ih fun other hother => h other (List.mem_cons_of_mem a hother)
    exact ⟨b :: bs, by simp [hb, hbs]⟩

theorem completedRenditions_of_subset (durationSeconds : ℚ) (h : ∀ name ∈ terminal.videoNames, name ∈ rows.map Prod.fst) :
    ∃ completed, completedRenditions rows durationSeconds terminal = some completed := by
  refine mapM_of_forall ?_
  intro rendition hrendition
  obtain ⟨id, hid⟩ := lookup_of_key (h rendition.name (List.mem_map_of_mem hrendition))
  exact ⟨_, by rw [hid]; rfl⟩

theorem completedRenditions_ids (h : completedRenditions rows durationSeconds terminal = some completed)
    (hnames : terminal.videoNames.Nodup) (hids : (rows.map Prod.snd).Nodup) :
    (completed.map TerminalRendition.renditionId).Nodup := by
  have hrows := completedRenditions_rows h
  have hlookups : (terminal.videoNames.map fun name => rows.lookup name).Nodup := by
    refine hnames.map_on ?_
    intro name hname other _ hsame
    have hlookup := List.mem_map_of_mem (f := fun name => rows.lookup name) hname
    rw [hrows] at hlookup
    obtain ⟨done, -, hdone⟩ := List.mem_map.mp hlookup
    have hrow := mem_of_lookup hdone.symm
    have hother := mem_of_lookup (hsame.symm.trans hdone.symm)
    exact congrArg Prod.fst (List.inj_on_of_nodup_map hids hrow hother rfl)
  rw [hrows] at hlookups
  have hcomp : (completed.map fun rendition => some rendition.renditionId) =
      (completed.map TerminalRendition.renditionId).map some := by
    rw [List.map_map]
    rfl
  rw [hcomp] at hlookups
  exact List.Nodup.of_map some hlookups

section
variable {pg : Postgres} {value : PaidVodTerminal} {table : Table RenditionRow}

theorem completeRenditions_succeeds {renditions : List TerminalRendition}
    (hduration : ∀ rendition ∈ renditions, (pg.thousandths rendition.durationSeconds).isSome = true)
    (hids : (renditions.map TerminalRendition.renditionId).Nodup)
    (hwaiting : ∀ rendition ∈ renditions, ∃ row, table.lookup rendition.renditionId = some row ∧
      row.assetId = value.assetId ∧ (row.status = "queued" ∨ row.status = "running")) :
    ∃ table', completeRenditions pg value renditions table = .ok table' := by
  induction renditions generalizing table with
  | nil => exact ⟨table, rfl⟩
  | cons rendition rest ih =>
    obtain ⟨duration, hsome⟩ := Option.isSome_iff_exists.mp (hduration rendition List.mem_cons_self)
    obtain ⟨row, hrow, hasset, hstatus⟩ := hwaiting rendition List.mem_cons_self
    rw [List.map_cons, List.nodup_cons] at hids
    have happlies : (row.assetId == value.assetId && (row.status == "queued" || row.status == "running")) =
        true := by
      simpa [hasset] using hstatus
    simp only [completeRenditions, hsome, Table.updateWhere, hrow, happlies, if_true, rowUpdated, bind,
      Except.bind]
    refine ih (fun other hother => hduration other (List.mem_cons_of_mem _ hother)) hids.2 ?_
    intro other hother
    have hne : other.renditionId ≠ rendition.renditionId := by
      intro hsame
      exact hids.1 (hsame ▸ List.mem_map_of_mem hother)
    rw [AList.lookup_insert_ne hne]
    exact hwaiting other (List.mem_cons_of_mem _ hother)

variable {assetId : String}

theorem completesRenditions_iff (hexact : ExactRenditions requested terminal)
    (hrequested : (requested.map Prod.fst).Nodup) :
    CompletesRenditions pg rows assetId durationSeconds terminal ↔ RowsRequested requested rows := by
  constructor
  · rintro ⟨completed, hcompleted, hlength, -⟩
    exact rowsRequested_of_completed hexact hrequested hcompleted hlength
  · intro hrows
    have hperm : terminal.videoNames.Perm (rows.map Prod.fst) := by
      have hnames := ((videoNames_perm hexact).trans hrows.symm).map goText
      simpa [Function.comp_def] using hnames
    obtain ⟨completed, hcompleted⟩ :=
      completedRenditions_of_subset durationSeconds fun name => hperm.mem_iff.mp
    have hids := completedRenditions_rows hcompleted
    have hcount := congrArg List.length hids
    rw [List.length_map, List.length_map, hperm.length_eq, List.length_map] at hcount
    refine ⟨completed, hcompleted, hcount.symm, ?_⟩
    rintro value table rfl hduration hwaiting
    refine completeRenditions_succeeds ?_
      (completedRenditions_ids hcompleted (videoNames_nodup hexact hrequested) hwaiting.ids) ?_
    · intro rendition hmem
      rw [completedRenditions_duration hcompleted rendition hmem]
      exact hduration
    · intro rendition hmem
      have hfound := List.mem_map_of_mem (f := fun rendition => some rendition.renditionId) hmem
      rw [← hids] at hfound
      obtain ⟨name, -, hlookup⟩ := List.mem_map.mp hfound
      exact hwaiting.waiting _ (mem_of_lookup hlookup)

theorem accepted_renditions_iff (hlisted : Listed requested terminal)
    (hrequested : (requested.map Prod.fst).Nodup) :
    ExactRenditions requested terminal ∧ CompletesRenditions pg rows assetId durationSeconds terminal ↔
      terminal.names.Nodup ∧ terminal.MarksVideo ∧ RowsRequested requested rows := by
  constructor
  · rintro ⟨hexact, hcompletes⟩
    exact ⟨(hlisted.perm_iff hrequested).mp hexact.1, hexact.2,
      (completesRenditions_iff hexact hrequested).mp hcompletes⟩
  · rintro ⟨hnames, hvideo, hrows⟩
    have hexact : ExactRenditions requested terminal := ⟨(hlisted.perm_iff hrequested).mpr hnames, hvideo⟩
    exact ⟨hexact, (completesRenditions_iff hexact hrequested).mpr hrows⟩

end

end

theorem AbrIntent.Laddered.rows_requested {intent : AbrIntent} (h : intent.Laddered) :
    RowsRequested intent.outputs.properties intent.rows := by
  have hnames : (intent.rows.map fun row => js row.1) = (intent.rows.map Prod.fst).map js := by
    rw [List.map_map]
    rfl
  rw [RowsRequested, hnames, h.outputs, h.rows]
  cases intent.asset.encodingTier <;> decide +kernel

end LivepeerTranscode.Gateway
