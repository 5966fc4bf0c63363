import LivepeerTranscode.Gateway.Assets

/-!
# The listing of a key's assets

`AssetRepo.list` of `repo/assets.ts` with the routes of `routes/vod/vod.ts` that list, show and
delete the assets of one API key. The cursor of a page is an asset id, and the next page is what
was created before that asset, whoever owns it.
-/

namespace LivepeerTranscode.Gateway
set_option autoImplicit false

abbrev AssetEntry : Type := Sigma fun _ : String => MediaAsset

structure RenditionView where
  id : String
  resolution : String
  codec : String
  bitrateKbps : Int
  storageKey : Option String
  status : String
  durationSec : Option Int
  completedAt : Option Time

structure JobView where
  id : String
  kind : String
  status : String
  workerUrl : Option String
  errorMessage : Option String
  startedAt : Option Time
  completedAt : Option Time

/-- What the other tables hold for an asset, in the order of their queries. -/
structure AttachedRows where
  playbackIds : List String
  renditions : List RenditionView
  jobs : List JobView
  operation : Option PaidOperation

/-- The tables behind the routes. An asset is only inserted under a `newAssetId()`. -/
structure AssetTables where
  assets : Table MediaAsset
  attached : String → AttachedRows
  issued : "" ∉ assets

structure ListAssetsOpts where
  apiKeyId : String
  limit : Nat
  cursor : Option String
  includeDeleted : Bool

structure AssetPage where
  items : List AssetEntry
  nextCursor : Option String

variable {includeDeleted : Bool} {entry : AssetEntry} {pre post : List AssetEntry} {a b : AssetEntry}
  {cursor : Option String} {assets : Table MediaAsset}

section
variable (C : LinearOrder String)

/-- `ORDER BY created_at DESC, id DESC`, where `C` is the collation of the ids. -/
def listedBefore (a b : AssetEntry) : Prop :=
  b.2.createdAt < a.2.createdAt ∨ b.2.createdAt = a.2.createdAt ∧ C.le b.1 a.1

instance : DecidableRel (listedBefore C) := fun a b =>
  haveI := C.toDecidableLE b.1 a.1
  inferInstanceAs (Decidable (_ ∨ _ ∧ _))

def MediaAsset.listed (key : String) (includeDeleted : Bool) (row : MediaAsset) : Bool :=
  row.apiKeyId == key && (includeDeleted || row.deletedAt.isNone)

/-- `created_at < (SELECT created_at FROM media.assets WHERE id = …)`, which no row meets when there is no
such asset. -/
def afterCursor (assets : Table MediaAsset) (cursor : Option String) (entry : AssetEntry) : Bool :=
  match truthy cursor with
  | none => true
  | some id => (assets.lookup id).any fun last => entry.2.createdAt < last.createdAt

def listRows (assets : Table MediaAsset) (opts : ListAssetsOpts) : List AssetEntry :=
  (assets.entries.insertionSort (listedBefore C)).filter fun entry =>
    entry.2.listed opts.apiKeyId opts.includeDeleted && afterCursor assets opts.cursor entry

/-- `AssetRepo.list` -/
def list (assets : Table MediaAsset) (opts : ListAssetsOpts) : AssetPage :=
  let rows := (listRows C assets opts).take (opts.limit + 1)
  ⟨rows.take opts.limit,
    if opts.limit < rows.length then rows[opts.limit - 1]?.map (·.1) else none⟩

/-- What a client sees that asks for page after page until there is no next cursor. -/
def followCursor (assets : Table MediaAsset) (opts : ListAssetsOpts) : Nat → Option (List AssetEntry)
  | 0 => none
  | fuel + 1 =>
    let page := list C assets opts
    match page.nextCursor with
    | none => some page.items
    | some cursor =>
      (followCursor assets { opts with cursor := some cursor } fuel).map (page.items ++ ·)

/-! ## Routes -/

/-- A query string once `z.coerce` has read its numbers: `limit` is `some none` when it is not an integer,
and a cursor given twice is no text. -/
structure AssetQuery where
  limit : Option (Option Int)
  cursor : Option (Option String)
  includeDeleted : Option String

inductive AssetRequest where
  | list (query : AssetQuery)
  | get (id : String)
  | delete (id : String)

/-- The asset of a bundle is without its source and its probe. -/
inductive AssetReply (Status : Type) where
  | error (code : Nat) (message : String)
  | page (items : List AssetEntry) (limit : Nat) (nextCursor : Option String) (includeDeleted : Bool)
  | bundle (id : String) (asset : MediaAsset) (playbackId : Option String) (operation : Option Status)
      (renditions : List RenditionView) (jobs : List JobView)
  | deleted

/-- `listQuery` with the key of the request. -/
def AssetQuery.parse (key : String) (query : AssetQuery) : Option ListAssetsOpts := do
  let limit ← query.limit.getD (some 50)
  let cursor ← query.cursor.elim (some none) (·.map some)
  if 0 < limit ∧ limit ≤ 200 then
    return ⟨key, limit.toNat, cursor, query.includeDeleted.any (· ≠ "")⟩
  else none

/-- The columns of a listed item; the others are not sent. -/
def listItem (entry : AssetEntry) : AssetEntry :=
  ⟨entry.1, { entry.2 with selectedOffering := none, sourceUrl := none, width := none, height := none,
                           frameRate := none, audioCodec := none, videoCodec := none, ffprobeJson := none,
                           errorMessage := none }⟩

variable {Status : Type} (customerOperationStatus : PaidOperation → Time → Status)

/-- The asset of a route with an id, when the caller's key owns it. -/
def ownAsset (assets : Table MediaAsset) (key id : String) : Option MediaAsset :=
  (assets.lookup id).filter (·.apiKeyId == key)

def fetchAssetBundle (db : AssetTables) (id key : String) (now : Time) : Option (AssetReply Status) :=
  (ownAsset db.assets key id).map fun asset =>
    .bundle id { asset with sourceUrl := none, ffprobeJson := none } (db.attached id).playbackIds.head?
      ((db.attached id).operation.map fun operation => customerOperationStatus operation now)
      (db.attached id).renditions (db.attached id).jobs

def respond (db : AssetTables) (key : String) (now : Time) : AssetRequest → AssetReply Status
  | .list query =>
    match query.parse key with
    | none => .error 400 "Invalid query."
    | some opts =>
      let page := list C db.assets opts
      .page (page.items.map listItem) opts.limit page.nextCursor opts.includeDeleted
  | .get id =>
    if id = "" then .error 400 "Invalid id."
    else (fetchAssetBundle customerOperationStatus db id key now).getD (.error 404 "Asset not found.")
  | .delete id =>
    if id = "" then .error 400 "Invalid id."
    else ((ownAsset db.assets key id).map fun _ => .deleted).getD (.error 404 "Asset not found.")

end

/-! ## Pages -/

section
variable {C : LinearOrder String} {assets : Table MediaAsset} {opts : ListAssetsOpts}

/-- What the pages are to show. -/
def listing (C : LinearOrder String) (assets : Table MediaAsset) (key : String) (includeDeleted : Bool) :
    List AssetEntry :=
  (assets.entries.insertionSort (listedBefore C)).filter fun entry => entry.2.listed key includeDeleted

/-- Where a page ends, the next asset was created at another time than the last one shown. -/
def PagesApart (limit : Nat) (rows : List AssetEntry) : Prop :=
  ∀ n a b, rows[n]? = some a → rows[n + 1]? = some b → limit ∣ n + 1 → b.2.createdAt ≠ a.2.createdAt

instance : IsTrans AssetEntry (listedBefore C) where
  trans a b c hab hbc := by
    rcases hab with hab | ⟨hab, hab'⟩ <;> rcases hbc with hbc | ⟨hbc, hbc'⟩
    · exact .inl (hbc.trans hab)
    · exact .inl (hbc ▸ hab)
    · exact .inl (hab ▸ hbc)
    · exact .inr ⟨hbc.trans hab, C.le_trans _ _ _ hbc' hab'⟩

instance : Std.Total (listedBefore C) where
  total a b := by
    rcases lt_trichotomy a.2.createdAt b.2.createdAt with h | h | h
    · exact .inr (.inl h)
    · rcases C.le_total a.1 b.1 with hle | hle
      · exact .inr (.inr ⟨h, hle⟩)
      · exact .inl (.inr ⟨h.symm, hle⟩)
    · exact .inl (.inl h)

theorem mem_listing {key : String} :
    entry ∈ listing C assets key includeDeleted ↔
      assets.lookup entry.1 = some entry.2 ∧ entry.2.listed key includeDeleted := by
  rw [listing, List.mem_filter, (List.perm_insertionSort _ _).mem_iff, AList.lookup,
    ← List.mem_dlookup_iff assets.nodupKeys]
  rfl

theorem listing_descends (key : String) (includeDeleted : Bool) :
    (listing C assets key includeDeleted).Pairwise fun a b => b.2.createdAt ≤ a.2.createdAt :=
  ((List.pairwise_insertionSort (listedBefore C) _).filter _).imp fun h => h.elim le_of_lt fun h => h.1.le

theorem listRows_eq : listRows C assets opts =
    (listing C assets opts.apiKeyId opts.includeDeleted).filter (afterCursor assets opts.cursor) := by
  simp only [listRows, listing, List.filter_filter, Bool.and_comm]

theorem followCursor_last (h : (listRows C assets opts).length ≤ opts.limit) (fuel : Nat) :
    followCursor C assets opts (fuel + 1) = some (listRows C assets opts) := by
  have hrows : (listRows C assets opts).take (opts.limit + 1) = listRows C assets opts :=
    List.take_of_length_le (by omega)
  simp [followCursor, list, hrows, List.take_of_length_le h, Nat.not_lt.mpr h]

theorem afterCursor_of_lt {a entry : AssetEntry} (ha : afterCursor assets cursor a)
    (hlt : entry.2.createdAt < a.2.createdAt) : afterCursor assets cursor entry := by
  revert ha
  unfold afterCursor
  cases truthy cursor with
  | none => exact id
  | some id =>
    intro ha
    obtain ⟨last, hlast, ha⟩ := (Option.any_eq_true _ _).mp ha
    exact (Option.any_eq_true _ _).mpr ⟨last, hlast, decide_eq_true (hlt.trans (of_decide_eq_true ha))⟩

theorem afterCursor_some {a : AssetEntry} (issued : "" ∉ assets) (ha : assets.lookup a.1 = some a.2)
    (entry : AssetEntry) :
    afterCursor assets (some a.1) entry = decide (entry.2.createdAt < a.2.createdAt) := by
  have hid : a.1 ≠ "" := fun hid => issued (hid ▸ AList.lookup_isSome.mp (by rw [ha]; rfl))
  have hcursor : truthy (some a.1) = some a.1 := by simp [truthy, Option.filter_some, hid]
  simp only [afterCursor, hcursor, ha, Option.any_some]

theorem rows_descend {a : AssetEntry} (hrows : listRows C assets opts = pre ++ a :: post) :
    (pre ++ a :: post).Pairwise fun a b => b.2.createdAt ≤ a.2.createdAt := by
  rw [← hrows, listRows_eq]
  exact (listing_descends _ _).filter _

/-- A page that is not the last ends at an asset `a`, and the next one holds what was created before it. -/
theorem followCursor_next (issued : "" ∉ assets)
    (hrows : listRows C assets opts = pre ++ a :: b :: post) (hlimit : opts.limit = pre.length + 1) (fuel : Nat) :
    followCursor C assets opts (fuel + 1) =
        (followCursor C assets { opts with cursor := some a.1 } fuel).map (pre ++ a :: ·) ∧
      listRows C assets { opts with cursor := some a.1 } =
        (b :: post).filter fun entry => entry.2.createdAt < a.2.createdAt := by
  constructor
  · have htake : (listRows C assets opts).take (opts.limit + 1) = (pre ++ [a]) ++ [b] := by
      rw [hrows, show pre ++ a :: b :: post = (pre ++ [a] ++ [b]) ++ post by simp]
      exact List.take_left' (by simp [hlimit])
    have hpage : list C assets opts = ⟨pre ++ [a], some a.1⟩ := by
      simp only [list, htake]
      rw [List.take_left' (by simp [hlimit]), if_pos (by simp [hlimit]), hlimit]
      simp
    simp only [followCursor, hpage, List.append_assoc, List.singleton_append]
  · have hmem : a ∈ listRows C assets opts := by simp [hrows]
    rw [listRows_eq, List.mem_filter, mem_listing] at hmem
    obtain ⟨⟨hlookup, _⟩, hafter⟩ := hmem
    have hfirst : ∀ entry ∈ pre ++ [a], ¬ entry.2.createdAt < a.2.createdAt := by
      intro entry hentry
      rcases List.mem_append.mp hentry with h | h
      · exact ((List.pairwise_append.mp (rows_descend hrows)).2.2 entry h a List.mem_cons_self).not_gt
      · exact (List.mem_singleton.mp h ▸ lt_irrefl _)
    calc listRows C assets { opts with cursor := some a.1 }
        = (listRows C assets opts).filter fun entry => entry.2.createdAt < a.2.createdAt := by
          rw [listRows_eq, listRows_eq, List.filter_filter]
          refine List.filter_congr fun entry _ => ?_
          rw [afterCursor_some issued hlookup, eq_comm, Bool.and_eq_left_iff_imp, decide_eq_true_eq]
          exact afterCursor_of_lt hafter
      _ = ((pre ++ [a]) ++ b :: post).filter fun entry => entry.2.createdAt < a.2.createdAt := by
          rw [hrows, List.append_assoc, List.singleton_append]
      _ = (b :: post).filter fun entry => entry.2.createdAt < a.2.createdAt := by
          rw [List.filter_append, List.filter_eq_nil_iff.mpr (by simpa using hfirst), List.nil_append]

/-- Nothing is skipped after `a` exactly when the asset after it is older. -/
theorem older_eq_self_iff {post : List AssetEntry}
    (hsorted : (a :: b :: post).Pairwise fun a b => b.2.createdAt ≤ a.2.createdAt) :
    (b :: post).filter (fun entry => decide (entry.2.createdAt < a.2.createdAt)) = b :: post ↔
      b.2.createdAt ≠ a.2.createdAt := by
  rw [List.filter_eq_self]
  constructor
  · intro h
    exact (of_decide_eq_true (h b List.mem_cons_self)).ne
  · intro h entry hentry
    have hb : b.2.createdAt < a.2.createdAt :=
      lt_of_le_of_ne (List.rel_of_pairwise_cons hsorted List.mem_cons_self) h
    rcases List.mem_cons.mp hentry with rfl | hentry
    · exact decide_eq_true hb
    · exact decide_eq_true ((List.rel_of_pairwise_cons (List.pairwise_cons.mp hsorted).2 hentry).trans_lt hb)

theorem pagesApart_append {limit : Nat} (hlimit : limit = pre.length + 1) :
    PagesApart limit (pre ++ a :: b :: post) ↔
      b.2.createdAt ≠ a.2.createdAt ∧ PagesApart limit (b :: post) := by
  have hright : ∀ n, (pre ++ a :: b :: post)[limit + n]? = (b :: post)[n]? := by
    intro n
    rw [List.append_cons, List.getElem?_append_right (by simp [hlimit])]
    simp [hlimit]
  constructor
  · intro h
    refine ⟨h pre.length a b (by simp) (by simp) (by rw [hlimit]), fun n a' b' ha hb hdvd => ?_⟩
    exact h (limit + n) a' b' (by rw [hright, ha]) (by rw [Nat.add_assoc, hright, hb])
      ((Nat.dvd_add_right (dvd_refl _)).mpr hdvd)
  · rintro ⟨hne, h⟩ n a' b' ha hb hdvd
    rcases (Nat.le_of_dvd n.succ_pos hdvd).eq_or_lt with hlast | hlater
    · obtain rfl : n = pre.length := by omega
      have hab : a = a' ∧ b = b' := by simpa using And.intro ha hb
      exact hab.1 ▸ hab.2 ▸ hne
    · obtain ⟨m, rfl⟩ := Nat.exists_eq_add_of_le (Nat.le_of_lt_succ hlater)
      rw [hright] at ha
      rw [Nat.add_assoc, hright] at hb
      exact h m a' b' ha hb ((Nat.dvd_add_right (dvd_refl _)).mp hdvd)

/-- A longer list of rows is one page and more. -/
theorem exists_page {limit : Nat} {rows : List AssetEntry} (hlimit : 1 ≤ limit) (h : limit < rows.length) :
    ∃ pre a b post, rows = pre ++ a :: b :: post ∧ limit = pre.length + 1 := by
  refine ⟨rows.take (limit - 1), rows[limit - 1], rows[limit], rows.drop (limit + 1), ?_, ?_⟩
  · have hdrop := List.drop_eq_getElem_cons h
    have hdrop' := List.drop_eq_getElem_cons (show limit - 1 < rows.length by omega)
    rw [Nat.sub_add_cancel hlimit, hdrop] at hdrop'
    exact (List.take_append_drop (limit - 1) rows).symm.trans (by rw [hdrop'])
  · rw [List.length_take]
    omega

theorem followCursor_complete (issued : "" ∉ assets) (hlimit : 1 ≤ opts.limit) {fuel : Nat}
    (hfuel : (listRows C assets opts).length ≤ fuel)
    (h : PagesApart opts.limit (listRows C assets opts)) :
    followCursor C assets opts (fuel + 1) = some (listRows C assets opts) := by
  induction fuel generalizing opts with
  | zero => exact followCursor_last (by omega) 0
  | succ fuel ih =>
    rcases Nat.lt_or_ge opts.limit (listRows C assets opts).length with hlong | hshort
    · obtain ⟨pre, a, b, post, hrows, hpre⟩ := exists_page hlimit hlong
      obtain ⟨hfollow, hnext⟩ := followCursor_next issued hrows hpre (fuel + 1)
      rw [hrows, pagesApart_append hpre] at h
      rw [(older_eq_self_iff (List.pairwise_append.mp (rows_descend hrows)).2.1).mpr h.1] at hnext
      have hshorter : (b :: post).length ≤ fuel := by
        simp only [hrows, List.length_append, List.length_cons] at hfuel ⊢
        omega
      rw [hfollow, @ih { opts with cursor := some a.1 } hlimit (hnext ▸ hshorter) (hnext ▸ h.2), hnext,
        hrows]
      rfl
    · exact followCursor_last hshort _

theorem followCursor_sublist (issued : "" ∉ assets) (hlimit : 1 ≤ opts.limit) {fuel : Nat}
    {visited : List AssetEntry} (h : followCursor C assets opts fuel = some visited) :
    visited.Sublist (listRows C assets opts) ∧
      (visited = listRows C assets opts → PagesApart opts.limit (listRows C assets opts)) := by
  induction fuel generalizing opts visited with
  | zero => exact absurd h nofun
  | succ fuel ih =>
    rcases Nat.lt_or_ge opts.limit (listRows C assets opts).length with hlong | hshort
    · obtain ⟨pre, a, b, post, hrows, hpre⟩ := exists_page hlimit hlong
      obtain ⟨hfollow, hnext⟩ := followCursor_next issued hrows hpre fuel
      rw [hfollow] at h
      obtain ⟨rest, hrest, rfl⟩ := Option.map_eq_some_iff.mp h
      obtain ⟨hsub, hapart⟩ := @ih { opts with cursor := some a.1 } hlimit _ hrest
      rw [hnext] at hsub hapart
      have hold := List.filter_sublist (l := b :: post) (p := fun entry => entry.2.createdAt < a.2.createdAt)
      rw [hrows]
      refine ⟨.append_left (.cons_cons a (hsub.trans hold)) pre, fun heq => ?_⟩
      obtain rfl : rest = b :: post := by simpa using heq
      have hall := hold.antisymm hsub
      rw [pagesApart_append hpre]
      exact ⟨(older_eq_self_iff (List.pairwise_append.mp (rows_descend hrows)).2.1).mp hall,
        hall ▸ hapart hall.symm⟩
    · rw [followCursor_last hshort] at h
      cases h
      refine ⟨.refl _, fun _ n a b _ hb hdvd => ?_⟩
      have := Nat.le_of_dvd n.succ_pos hdvd
      have := (List.getElem?_eq_some_iff.mp hb).1
      omega

end

/-- Following the cursor shows every listed asset once and in descending order of creation exactly when no
page ends between two assets created at one time. -/
theorem pages_complete_iff (C : LinearOrder String) (db : AssetTables) (key : String) (includeDeleted : Bool)
    (limit : Nat) (hlimit : 1 ≤ limit) :
    (∃ fuel visited, followCursor C db.assets ⟨key, limit, none, includeDeleted⟩ fuel = some visited ∧
        visited.Perm (listing C db.assets key includeDeleted) ∧
        visited.Pairwise fun a b => b.2.createdAt ≤ a.2.createdAt) ↔
      PagesApart limit (listing C db.assets key includeDeleted) := by
  have hrows : listRows C db.assets ⟨key, limit, none, includeDeleted⟩ =
      listing C db.assets key includeDeleted := by
    rw [listRows_eq]
    exact List.filter_eq_self.mpr fun _ _ => rfl
  rw [← hrows]
  constructor
  · rintro ⟨fuel, visited, hfollow, hperm, _⟩
    obtain ⟨hsub, hapart⟩ := followCursor_sublist db.issued hlimit hfollow
    exact hapart (hsub.eq_of_length hperm.length_eq)
  · intro h
    refine ⟨_, _, followCursor_complete db.issued hlimit le_rfl h, .refl _, ?_⟩
    rw [hrows]
    exact listing_descends key includeDeleted

def assetOf (key : String) (createdAt : Time) : MediaAsset :=
  { sourcedAsset with apiKeyId := key, createdAt := createdAt }

/-- Two assets of one key and one of another. -/
def twoAssets (first second : Time) : AssetTables where
  assets := (((∅ : Table MediaAsset).insert "asset_1" (assetOf "key_1" first)).insert "asset_2"
    (assetOf "key_1" second)).insert "asset_3" (assetOf "key_2" 5)
  attached _ := ⟨[], [], [], none⟩
  issued := by simp only [AList.mem_insert, AList.notMem_empty]; decide

theorem pages_complete_iff_apart :
    (∃ fuel visited, followCursor inferInstance (twoAssets 1 2).assets ⟨"key_1", 1, none, false⟩ fuel =
        some visited ∧ visited.Perm (listing inferInstance (twoAssets 1 2).assets "key_1" false) ∧
        visited.Pairwise fun a b => b.2.createdAt ≤ a.2.createdAt) ↔
      PagesApart 1 (listing inferInstance (twoAssets 1 2).assets "key_1" false) :=
  pages_complete_iff inferInstance (twoAssets 1 2) "key_1" false 1 le_rfl

/-- Of two assets created at one time the second is never shown. -/
theorem tied_asset_skipped :
    (followCursor inferInstance (twoAssets 1 1).assets ⟨"key_1", 1, none, false⟩ 2).map (·.map (·.1)) =
        some ["asset_2"] ∧
      (listing inferInstance (twoAssets 1 1).assets "key_1" false).map (·.1) = ["asset_2", "asset_1"] := by
  decide +kernel

/-! ## Foreign rows -/

/-- The databases hold the same assets of the key, with the same rows attached to them. -/
structure SameRows (key : String) (db db' : AssetTables) : Prop where
  assets : ∀ id, ownAsset db.assets key id = ownAsset db'.assets key id
  attached : ∀ id, (ownAsset db.assets key id).isSome → db.attached id = db'.attached id

/-- The cursor of a listing, if it has one, is an asset of the key, or the key has nothing to list. -/
def OwnCursor (db : AssetTables) (key : String) : AssetRequest → Prop
  | .list query => ∀ opts, query.parse key = some opts → ∀ id, truthy opts.cursor = some id →
      (ownAsset db.assets key id).isSome ∨
        ∀ other row, db.assets.lookup other = some row → row.listed key opts.includeDeleted = false
  | _ => True

section
variable {C : LinearOrder String} {key : String} {db db' : AssetTables}

theorem ownAsset_eq_some {id : String} {row : MediaAsset} :
    ownAsset assets key id = some row ↔ assets.lookup id = some row ∧ row.apiKeyId = key := by
  rw [ownAsset, Option.filter_eq_some_iff, beq_iff_eq]

theorem mem_listing_own :
    entry ∈ listing C db.assets key includeDeleted ↔
      ownAsset db.assets key entry.1 = some entry.2 ∧ entry.2.listed key includeDeleted := by
  rw [mem_listing, ownAsset_eq_some]
  simp only [MediaAsset.listed, Bool.and_eq_true, beq_iff_eq]
  tauto

theorem listing_nodup (includeDeleted : Bool) : (listing C db.assets key includeDeleted).Nodup :=
  ((List.perm_insertionSort _ _).nodup_iff.mpr (List.nodupKeys_iff_pairwise.mp db.assets.nodupKeys |>.imp
    fun h hab => h (congrArg Sigma.fst hab))).filter _

theorem SameRows.listing (h : SameRows key db db') (includeDeleted : Bool) :
    listing C db.assets key includeDeleted = Gateway.listing C db'.assets key includeDeleted := by
  have hmem : ∀ entry, entry ∈ Gateway.listing C db.assets key includeDeleted ↔
      entry ∈ Gateway.listing C db'.assets key includeDeleted := by
    intro entry
    rw [mem_listing_own, mem_listing_own, h.assets]
  refine List.Perm.eq_of_pairwise ?_ ((List.pairwise_insertionSort (listedBefore C) _).filter _)
    ((List.pairwise_insertionSort (listedBefore C) _).filter _)
    ((List.perm_ext_iff_of_nodup (listing_nodup _) (listing_nodup _)).mpr hmem)
  -- Two rows that stand before each other have one id, and an id has one row.
  intro a b ha hb hab hba
  have hid : a.1 = b.1 := by
    rcases hab with hab | hab <;> rcases hba with hba | hba
    · exact absurd hba hab.asymm
    · exact absurd hab hba.1.not_gt
    · exact absurd hba hab.1.not_gt
    · exact C.le_antisymm _ _ hba.2 hab.2
  have hrow := (mem_listing.mp ((hmem a).mp ha)).1.symm.trans (hid ▸ (mem_listing.mp hb).1)
  exact Sigma.ext hid (heq_of_eq (Option.some_inj.mp hrow))

theorem SameRows.afterCursor (h : SameRows key db db')
    (hcursor : ∀ id, truthy cursor = some id → (ownAsset db.assets key id).isSome) :
    afterCursor db.assets cursor = Gateway.afterCursor db'.assets cursor := by
  funext entry
  unfold Gateway.afterCursor
  cases hid : truthy cursor with
  | none => rfl
  | some id =>
    obtain ⟨row, hrow⟩ := Option.isSome_iff_exists.mp (hcursor id hid)
    simp only [(ownAsset_eq_some.mp hrow).1, (ownAsset_eq_some.mp (h.assets id ▸ hrow)).1]

theorem listing_eq_nil_iff : listing C db.assets key includeDeleted = [] ↔
    ∀ other row, db.assets.lookup other = some row → row.listed key includeDeleted = false := by
  rw [List.eq_nil_iff_forall_not_mem]
  constructor
  · intro h other row hrow
    exact Bool.eq_false_iff.mpr fun hlisted => h ⟨other, row⟩ (mem_listing.mpr ⟨hrow, hlisted⟩)
  · intro h entry hentry
    obtain ⟨hrow, hlisted⟩ := mem_listing.mp hentry
    exact Bool.eq_false_iff.mp (h _ _ hrow) hlisted

theorem parse_key {query : AssetQuery} {opts : ListAssetsOpts} (h : query.parse key = some opts) :
    opts.apiKeyId = key ∧ 1 ≤ opts.limit := by
  simp only [AssetQuery.parse, Option.bind_eq_bind, Option.bind_eq_some_iff] at h
  obtain ⟨limit, _, cursor, _, h⟩ := h
  split at h
  · cases h
    exact ⟨rfl, by simp only; omega⟩
  · exact absurd h nofun

variable {Status : Type} {customerOperationStatus : PaidOperation → Time → Status}

theorem SameRows.respond (h : SameRows key db db') (now : Time) {request : AssetRequest}
    (hown : OwnCursor db key request) :
    respond C customerOperationStatus db' key now request =
      Gateway.respond C customerOperationStatus db key now request := by
  cases request with
  | list query =>
    simp only [Gateway.respond]
    cases hparse : query.parse key with
    | none => rfl
    | some opts =>
      have hrows : listRows C db'.assets opts = listRows C db.assets opts := by
        rw [listRows_eq, listRows_eq, (parse_key hparse).1, ← h.listing]
        by_cases hcursor : ∀ id, truthy opts.cursor = some id → (ownAsset db.assets key id).isSome
        · rw [h.afterCursor hcursor]
        · push Not at hcursor
          obtain ⟨id, hid, hforeign⟩ := hcursor
          rw [listing_eq_nil_iff.mpr ((hown opts hparse id hid).resolve_left hforeign)]
          rfl
      simp only [list, hrows]
  | get id =>
    simp only [Gateway.respond, fetchAssetBundle, ← h.assets]
    cases hid : ownAsset db.assets key id with
    | none => rfl
    | some row => rw [h.attached id (by rw [hid]; rfl)]
  | delete id => simp only [Gateway.respond, ← h.assets]

/-- The tables with other assets in which the key owns the same ones. -/
theorem sameRows_of_assets (issued : "" ∉ assets)
    (h : ∀ id, ownAsset db.assets key id = ownAsset assets key id) :
    SameRows key db { db with assets := assets, issued := issued } :=
  ⟨h, fun _ _ => rfl⟩

/-- A cursor that is not the key's own tells whether there is such an asset and how old it is. -/
theorem foreign_cursor_tells (customerOperationStatus : PaidOperation → Time → Status) {query : AssetQuery}
    {opts : ListAssetsOpts} {id : String}
    (hparse : query.parse key = some opts) (hid : truthy opts.cursor = some id)
    (hforeign : ownAsset db.assets key id = none)
    (hentry : entry ∈ listing C db.assets key opts.includeDeleted) (now : Time) :
    ∃ db₁ db₂, SameRows key db db₁ ∧ SameRows key db db₂ ∧
      respond C customerOperationStatus db₁ key now (.list query) ≠
        respond C customerOperationStatus db₂ key now (.list query) := by
  obtain ⟨other, hother⟩ : ∃ other, other ≠ key := ⟨key.push 'x', fun h => by
    simpa using congrArg String.length h⟩
  have hne : id ≠ "" := by
    rw [truthy, Option.filter_eq_some_iff] at hid
    simpa using hid.2
  have herased : SameRows key db { db with
      assets := db.assets.erase id, issued := fun h => db.issued (AList.mem_erase.mp h).2 } := by
    refine sameRows_of_assets _ fun id' => ?_
    by_cases h : id' = id
    · rw [h, hforeign, ownAsset, AList.lookup_erase]
      rfl
    · rw [ownAsset, ownAsset, AList.lookup_erase_ne h]
  have hinserted : SameRows key db { db with
      assets := db.assets.insert id (assetOf other (entry.2.createdAt + 1)),
      issued := fun h => ((AList.mem_insert _).mp h).elim (hne ·.symm) db.issued } := by
    refine sameRows_of_assets _ fun id' => ?_
    by_cases h : id' = id
    · rw [h, hforeign, ownAsset, AList.lookup_insert, Option.filter_some, assetOf]
      simp [hother]
    · rw [ownAsset, ownAsset, AList.lookup_insert_ne h]
  refine ⟨_, _, hinserted, herased, fun heq => ?_⟩
  simp only [respond, hparse, AssetReply.page.injEq] at heq
  obtain ⟨hkey, hlimit⟩ := parse_key hparse
  -- Without the asset the page is empty; with one created after `entry` it is not.
  have hempty : listRows C (db.assets.erase id) opts = [] := by
    rw [listRows_eq, List.filter_eq_nil_iff]
    simp [afterCursor, hid]
  have hshown : entry ∈ listRows C (db.assets.insert id (assetOf other (entry.2.createdAt + 1))) opts := by
    rw [listRows_eq, hkey, ← hinserted.listing, List.mem_filter]
    refine ⟨hentry, ?_⟩
    simp [afterCursor, hid, assetOf]
  have hitems := List.map_eq_nil_iff.mp (heq.1.trans (by simp [list, hempty]))
  simp only [list, List.take_take, List.take_eq_nil_iff] at hitems
  rcases hitems with hzero | hnil
  · omega
  · exact absurd hshown (hnil ▸ List.not_mem_nil)

end

/-- What a key is told depends on the rows of other keys exactly when it lists with a cursor that is not an
asset of its own, and has an asset to list. -/
theorem responses_confined_iff (C : LinearOrder String) {Status : Type}
    (customerOperationStatus : PaidOperation → Time → Status) (db : AssetTables) (key : String) (now : Time)
    (request : AssetRequest) :
    (∀ db', SameRows key db db' →
      respond C customerOperationStatus db' key now request =
        respond C customerOperationStatus db key now request) ↔
      OwnCursor db key request := by
  refine ⟨fun hsame => ?_, fun hown db' h => h.respond now hown⟩
  cases request with
  | list query =>
    intro opts hparse id hid
    by_contra hcon
    obtain ⟨hforeign, hlisted⟩ := not_or.mp hcon
    rw [← listing_eq_nil_iff (C := C)] at hlisted
    obtain ⟨entry, hentry⟩ := List.exists_mem_of_ne_nil _ hlisted
    obtain ⟨db₁, db₂, h₁, h₂, hne⟩ := foreign_cursor_tells customerOperationStatus hparse hid
      (Option.not_isSome_iff_eq_none.mp hforeign) hentry now
    exact hne ((hsame db₁ h₁).trans (hsame db₂ h₂).symm)
  | get id => trivial
  | delete id => trivial

/-- With the cursor `asset_3` of another key, a page tells whether there is such an asset. -/
theorem foreign_cursor_leaks : ∃ db', SameRows "key_1" (twoAssets 1 2) db' ∧
    respond inferInstance (fun _ _ => ()) (twoAssets 1 2) "key_1" 0
        (.list ⟨some (some 2), some (some "asset_3"), none⟩) ≠
      respond inferInstance (fun _ _ => ()) db' "key_1" 0
        (.list ⟨some (some 2), some (some "asset_3"), none⟩) := by
  refine ⟨{ twoAssets 1 2 with
    assets := (twoAssets 1 2).assets.erase "asset_3", issued := by decide +kernel },
    sameRows_of_assets _ fun id => ?_, fun h => ?_⟩
  · by_cases h : id = "asset_3"
    · subst h
      rfl
    · rw [ownAsset, ownAsset, AList.lookup_erase_ne h]
  · have hshown := congrArg (fun reply => match reply with
      | .page items _ _ _ => items.length
      | _ => 0) h
    revert hshown
    decide +kernel

end LivepeerTranscode.Gateway
