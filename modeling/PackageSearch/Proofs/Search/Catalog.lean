import Mathlib
import PackageSearch.Pattern.Meaning
import PackageSearch.Storage.FileStore
import PackageSearch.Proofs.Index.Catalog
import PackageSearch.Proofs.Merge.Protocol
import PackageSearch.Proofs.Search.Abort

/-!
# The catalog as listed and as searched

The catalog is read by two loops. One lists the manifests of all packages for the index, the other
delivers them one by one to a search for everything. `catalog_seen_alike` says that both read the
same manifests in the same order and fail at the same one, and that the index and a search without
uplinks then show the same names.
-/

set_option autoImplicit false

namespace PackageSearch

open Merge
open Package (Listing Manifest)

namespace Storage

/-! ## Two loops over the packages found -/

variable {tree : FileTree}

theorem readManifests_cons (first : Found) (rest : List Found) :
    readManifests tree (first :: rest) =
      match readManifest tree first.path, readManifests tree rest with
      | .error error, _ => .error error
      | .ok _, .error error => .error error
      | .ok manifest, .ok others => .ok (manifest.toList ++ others) := by
  rw [readManifests]
  cases readManifest tree first.path with
  | error error => rfl
  | ok manifest => cases readManifests tree rest <;> rfl

theorem readCall_error {found : Found} {error : StoreError}
    (failed : readManifest tree found.path = .error error) :
    readCall tree found = ⟨0, .error error⟩ := by
  rw [readCall, failed]

theorem readCall_ok {found : Found} {manifest : Option Manifest}
    (read : readManifest tree found.path = .ok manifest) :
    readCall tree found =
      ⟨0, .value (manifest.map fun manifest => ⟨manifest, found.modified⟩)⟩ := by
  rw [readCall, read]

theorem readManifests_eq (found : List Found) :
    readManifests tree found =
      match Script.failure? .localStore (found.map (readCall tree)) with
      | some error => .error error
      | none => .ok ((Script.items (found.map (readCall tree))).map LocalRecord.manifest) := by
  induction found with
  | nil => rfl
  | cons first rest ih =>
      rw [readManifests_cons, ih, List.map_cons]
      cases read : readManifest tree first.path with
      | error error =>
          rw [readCall_error read]
          rfl
      | ok manifest =>
          rw [readCall_ok read]
          simp only [Script.failure?, Script.items]
          cases Script.failure? .localStore (rest.map (readCall tree)) with
          | some error => rfl
          | none => cases manifest <;> rfl

/-- A script that fails while reading has delivered the manifests before the one that is not
read. -/
theorem exists_unread {found : List Found} {error : StoreError}
    (failed : Script.failure? .localStore (found.map (readCall tree)) = some error) :
    ∃ before culprit behind, found = before ++ culprit :: behind ∧
      readManifests tree before =
        .ok ((Script.items (found.map (readCall tree))).map LocalRecord.manifest) ∧
      readManifest tree culprit.path = .error error := by
  induction found with
  | nil => cases failed
  | cons first rest ih =>
      cases read : readManifest tree first.path with
      | error cause =>
          rw [List.map_cons, readCall_error read] at failed ⊢
          cases failed
          exact ⟨[], first, rest, rfl, rfl, read⟩
      | ok manifest =>
          rw [List.map_cons, readCall_ok read] at failed ⊢
          obtain ⟨before, culprit, behind, rfl, earlier, unread⟩ := ih failed
          refine ⟨first :: before, culprit, behind, rfl, ?_, unread⟩
          rw [readManifests_cons, read, earlier]
          cases manifest <;> rfl

theorem ends_readCall (found : List Found) : Script.ends (found.map (readCall tree)) = true := by
  induction found with
  | nil => rfl
  | cons first rest ih =>
      cases read : readManifest tree first.path with
      | error error => rw [List.map_cons, readCall_error read]; rfl
      | ok manifest => rw [List.map_cons, readCall_ok read]; exact ih

namespace Discovery

variable {discovery : Discovery}

theorem listAll_eq (discovery : Discovery) (tree : FileTree) :
    discovery.listAll tree =
      match Script.failure? .localStore (discovery.script tree "") with
      | some error => .error error
      | none => .ok ((discovery.script tree "").items.map LocalRecord.manifest) := by
  rw [listAll, script]
  cases discovery.find tree "" with
  | error error => rfl
  | ok found => exact readManifests_eq found

theorem ends_script (discovery : Discovery) (tree : FileTree) (text : String) :
    (discovery.script tree text).ends = true := by
  rw [script]
  cases discovery.find tree text with
  | error error => rfl
  | ok found => exact ends_readCall found

/-- How the catalog fails to be read, and the manifests before: the directories cannot be walked, or
the manifest of a package found cannot be read. -/
inductive FailsAfter (discovery : Discovery) (tree : FileTree) (error : StoreError) :
    List Manifest → Prop where
  | walk : discovery.find tree "" = .error error → FailsAfter discovery tree error []
  | manifest {before behind : List Found} {culprit : Found} {manifests : List Manifest} :
      discovery.find tree "" = .ok (before ++ culprit :: behind) →
      readManifests tree before = .ok manifests → readManifest tree culprit.path = .error error →
      FailsAfter discovery tree error manifests

theorem failsAfter_script {error : StoreError}
    (failed : Script.failure? .localStore (discovery.script tree "") = some error) :
    discovery.FailsAfter tree error
      ((discovery.script tree "").items.map LocalRecord.manifest) := by
  rw [script] at failed ⊢
  cases walked : discovery.find tree "" with
  | error cause =>
      rw [walked] at failed
      cases failed
      exact .walk walked
  | ok found =>
      rw [walked] at failed
      obtain ⟨before, culprit, behind, rfl, earlier, unread⟩ := exists_unread failed
      exact .manifest walked earlier unread

end Discovery

/-! ## What the producer sends -/

def recordMessage (record : LocalRecord) : Message :=
  .item .localStore (.single record)

/-- The messages of a local producer with the empty query text tally with the catalog: it reports a
failure exactly when the catalog cannot be listed, behind the manifests before the failing one, and
otherwise sends the manifests listed. -/
structure Tallies (discovery : Discovery) (tree : FileTree) (messages : List Message) : Prop where
  fails_iff : ∀ error, discovery.listAll tree = .error error ↔
    .failed .localStore (.store error) ∈ messages
  failed : ∀ error, discovery.listAll tree = .error error →
    ∃ records : List LocalRecord,
      discovery.FailsAfter tree error (records.map LocalRecord.manifest) ∧
      messages = records.map recordMessage ++
        [.failed .localStore (.store error), .done .localStore]
  listed : ∀ manifests, discovery.listAll tree = .ok manifests →
    ∃ records : List LocalRecord, records.map LocalRecord.manifest = manifests ∧
      messages = records.map recordMessage ++ [.done .localStore]

theorem tallies_messagesOf (discovery : Discovery) (tree : FileTree) :
    Tallies discovery tree (messagesOf .localStore (discovery.work tree "")) := by
  have listing := discovery.listAll_eq tree
  have sent := Script.messagesOf_work .localStore .localStore (discovery.script tree "")
  rw [← Discovery.work] at sent
  cases failure : Script.failure? .localStore (discovery.script tree "") with
  | some error =>
      rw [failure] at listing sent
      have whole : messagesOf .localStore (discovery.work tree "") =
          (discovery.script tree "").items.map recordMessage ++
            [.failed .localStore (.store error), .done .localStore] := by
        rw [sent, List.append_assoc]
        rfl
      refine ⟨fun other => ?_, fun other same => ?_, fun manifests same => ?_⟩
      · rw [listing, whole]
        simp [recordMessage, eq_comm]
      · cases listing.symm.trans same
        exact ⟨_, Discovery.failsAfter_script failure, whole⟩
      · cases listing.symm.trans same
  | none =>
      rw [failure] at listing sent
      have whole : messagesOf .localStore (discovery.work tree "") =
          (discovery.script tree "").items.map recordMessage ++ [.done .localStore] := by
        rw [sent, Option.map_none, Option.filter_none, Option.toList_none, List.map_nil,
          List.append_nil]
        rfl
      refine ⟨fun other => ?_, fun other same => ?_, fun manifests same => ?_⟩
      · rw [listing, whole]
        simp [recordMessage]
      · cases listing.symm.trans same
      · cases listing.symm.trans same
        exact ⟨_, rfl, whole⟩

/-- What a local producer with the empty query text does while its messages are received and nobody
cancels it: it takes so many steps at most, it can go on as long as it is not finished and the
channel has room, and when it is finished its messages tally with the catalog. -/
structure ProducesCatalog (discovery : Discovery) (tree : FileTree) (trace : List Moment)
    (messages : List Message) (last : Producer) : Prop where
  bounded : trace.length ≤ 3 * (discovery.work tree "").length + 8
  goes_on : last.isFinished = false → ∀ around : Surroundings, around.room = true →
    last.due?.getD around.clock ≤ around.clock → (last.step? around).isSome = true
  tallies : last.isFinished = true → Tallies discovery tree messages

theorem conduct_producesCatalog {discovery : Discovery} {tree : FileTree} {abortable : Bool}
    {trace : List Moment} {messages : List Message} {last : Producer}
    (conduct : Conduct (.start .localStore abortable (discovery.work tree "")) trace messages last)
    (heard : Heard trace) (free : ∀ moment ∈ trace, moment.around.cancelled = false) :
    ProducesCatalog discovery tree trace messages last := by
  refine ⟨Nat.le_of_add_right_le conduct.length_add_effort_le, ?_, ?_⟩
  · intro unfinished around room awake
    have ended : last.ends = true :=
      conduct.ends ((Script.workEnds_work _ _).trans (discovery.ends_script tree ""))
    obtain ⟨next, message, stepped⟩ :=
      Producer.exists_step? unfinished (.inl ended) (fun _ => room) awake
    rw [stepped, Option.isSome_some]
  · intro finished
    -- A receiver that is never gone does not come back.
    have gone : GoneForGood trace :=
      List.pairwise_of_forall_mem_list fun earlier member later _ _ => heard earlier member
    have account := conduct.account gone rfl
    rw [account.eq_messagesOf heard finished free]
    exact tallies_messagesOf discovery tree

end Storage

/-! ## What the index and a search show -/

theorem Index.Packages.mem_ofCatalog {catalog : List Manifest} {name : String} :
    name ∈ Packages.ofCatalog catalog ↔ name ∈ catalog.map Manifest.name := by
  have folded (packages : Packages) :
      name ∈ catalog.foldl upsert packages ↔
        name ∈ packages ∨ name ∈ catalog.map Manifest.name := by
    induction catalog generalizing packages with
    | nil => simp
    | cons manifest rest ih =>
        rw [List.foldl_cons, ih, upsert, Finmap.mem_insert, List.map_cons, List.mem_cons]
        tauto
  rw [ofCatalog, folded, or_iff_right Finmap.notMem_empty]

/-- The listing holds the names of the packages, whatever the order in which these are given. -/
theorem Index.Shows.perm_names {index : Index} {packages : Packages} {names : List String}
    (shows : Shows index.documents packages) (once : names.Nodup)
    (same : ∀ name, name ∈ names ↔ name ∈ packages) : (index.listing.map Hit.name).Perm names := by
  have distinct : (index.listing.map Hit.name).Nodup := by
    refine List.pairwise_map.2 (shows.listing_names.imp fun {left right} before named => ?_)
    rw [named] at before
    exact List.lt_irrefl _ before
  refine (List.perm_ext_iff_of_nodup distinct once).2 fun name => ?_
  rw [same, List.mem_map]
  constructor
  · rintro ⟨hit, listed, rfl⟩
    exact ((shows.mem_listing hit).1 listed).1
  · intro held
    exact ⟨⟨name, FixedPoint.one⟩, (shows.mem_listing _).2 ⟨held, rfl⟩, rfl⟩

theorem mem_names_firstOfEachName {listings : List Listing} {name : String} :
    name ∈ (firstOfEachName listings).map Listing.name ↔ name ∈ listings.map Listing.name := by
  constructor
  · intro member
    rw [firstOfEachName_eq] at member
    exact ((eraseDupsBy_sublist sameName listings).map _).mem member
  · intro member
    obtain ⟨listing, held, rfl⟩ := List.mem_map.1 member
    exact name_mem_dropSeen held List.not_mem_nil

theorem accepts_empty (listing : Listing) :
    (Matcher.compile "").accepts listing.package = true := rfl

/-- The scripts of a search for everything that asks no uplink. -/
def catalogScripts (discovery : Storage.Discovery) (tree : Storage.FileTree) : SourceScripts :=
  ⟨discovery.script tree "", []⟩

/-- A search for everything without uplinks merges the listings of the catalog, in its order. -/
theorem SearchRun.names_of_catalog {settings : SearchSettings} {query : Query}
    {discovery : Storage.Discovery} {tree : Storage.FileTree} {actions : List Action}
    {arrivals : List Message} {pipeline : Pipeline Consumer} {catalog : List Manifest}
    (run : SearchRun settings query (catalogScripts discovery tree) actions arrivals pipeline)
    (everything : query.text = "") (returned : hasReturned pipeline = true)
    (listed : discovery.listAll tree = .ok catalog) :
    ∃ merged, pipeline.state.outcome = .ok merged ∧
      merged.map Listing.name = catalog.map Manifest.name := by
  rw [discovery.listAll_eq] at listed
  cases failure : Script.failure? .localStore (discovery.script tree "") with
  | some error =>
      rw [failure] at listed
      cases listed
  | none =>
      rw [failure] at listed
      cases listed
      have sound : (catalogScripts discovery tree).localFailure? = none := failure
      obtain ⟨shares, own⟩ := run.searchCourse.exists_shares
      have merged := own.outcome_eq returned
      rw [sound, everything] at merged
      refine ⟨_, merged, ?_⟩
      -- The local store is the only source, so its items arrive in the order of the catalog.
      have arrived : arrivals.filterMap Message.item? =
          (discovery.script tree "").items.map .single :=
        (run.interleaving_deliveries returned sound).eq_head (List.forall_mem_nil _)
      simp only [accepts_empty, List.filter_true]
      rw [deliveredListings, arrived, List.flatMap_map, List.map_flatMap, List.map_map]
      exact List.map_eq_flatMap.symm

/-- Reading the catalog for the index and for a search is the same: the producer of the local store
delivers the manifests that the listing gives, in that order, and reports the failure with which the
listing ends, behind the manifests read before it. So when the catalog can be read, the star lists
after a rebuilding the names that a search for everything without uplinks keeps. -/
theorem catalog_seen_alike (discovery : Storage.Discovery) (tree : Storage.FileTree) :
    (∀ {abortable trace messages last},
      Conduct (.start .localStore abortable (discovery.work tree "")) trace messages last →
      Heard trace → (∀ moment ∈ trace, moment.around.cancelled = false) →
        Storage.ProducesCatalog discovery tree trace messages last) ∧
    ∀ catalog, discovery.listAll tree = .ok catalog →
      ∀ index : Index, ∃ hits,
        (index.rebuild (discovery.listAll tree)).1.query Index.wildcard = .ok hits ∧
        (hits.Pairwise fun left right => left.name.toUTF8.toList < right.name.toUTF8.toList) ∧
        ∀ {settings query actions arrivals pipeline},
          SearchRun settings query (catalogScripts discovery tree) actions arrivals pipeline →
          query.text = "" → hasReturned pipeline = true →
            ∃ merged, pipeline.state.outcome = .ok merged ∧
              (hits.map Hit.name).Perm ((firstOfEachName merged).map Listing.name) := by
  refine ⟨Storage.conduct_producesCatalog, fun catalog listed index => ?_⟩
  have shows := Index.Shows.ofCatalog catalog
  rw [listed]
  refine ⟨(Index.ofCatalog catalog).listing, rfl, shows.listing_names, ?_⟩
  intro settings query actions arrivals pipeline run everything returned
  obtain ⟨merged, outcome, names⟩ := run.names_of_catalog everything returned listed
  refine ⟨merged, outcome, shows.perm_names (nodup_names_dropSeen [] merged) fun name => ?_⟩
  rw [mem_names_firstOfEachName, names, Index.Packages.mem_ofCatalog]

/-! ## A sample catalog -/

theorem Merge.Producer.around_mem_of_mem_attend {producer : Producer} {arounds : List Surroundings}
    {moment : Moment} (member : moment ∈ (producer.attend arounds).1) :
    moment.around ∈ arounds := by
  induction arounds generalizing producer with
  | nil => cases member
  | cons around rest ih =>
      cases stepped : producer.step? around with
      | none =>
          simp only [attend, stepped] at member
          exact List.mem_cons_of_mem _ (ih member)
      | some result =>
          simp only [attend, stepped] at member
          rcases List.mem_cons.1 member with rfl | later
          · exact List.mem_cons_self
          · exact List.mem_cons_of_mem _ (ih later)

def samplePackage (name manifest : String) : Storage.FileName × Storage.Entry :=
  let content := .file manifest.toUTF8.toList
  (name.toUTF8.toList, .directory .epoch [(Storage.manifestFile.bytes, content)])

/-- Two packages of one name under different roots, a directory without a manifest, and a package
whose manifest is given. -/
def sampleTree (manifest : String) : Storage.FileTree :=
  let pad := samplePackage "pad" "\x7b\"name\":\"pad\"\x7d"
  let none := ("none".toUTF8.toList, Storage.Entry.emptyDirectory)
  ⟨.directory .epoch
    [samplePackage "zip" manifest, ("alt".toUTF8.toList, .directory .epoch [pad, none]), pad], []⟩

def sampleDiscovery : Storage.Discovery :=
  .standard Pattern.engine (Storage.Path.ofText "/")
    (Dictionary.empty.insert "alternate" (Storage.Path.ofText "alt"))

def brokenTree : Storage.FileTree := sampleTree "\x7b"

def wholeTree : Storage.FileTree := sampleTree "\x7b\"name\":\"zip\"\x7d"

theorem listAll_brokenTree :
    sampleDiscovery.listAll brokenTree = .error (.invalidManifest "/zip/package.json" .ended) := by
  cbv

theorem names_wholeTree :
    (sampleDiscovery.listAll wholeTree).toOption.map (List.map Manifest.name) =
      some ["pad", "pad", "zip"] := by
  cbv

theorem exists_listAll_wholeTree : ∃ catalog, sampleDiscovery.listAll wholeTree = .ok catalog ∧
    catalog.map Manifest.name = ["pad", "pad", "zip"] := by
  have names := names_wholeTree
  cases listed : sampleDiscovery.listAll wholeTree with
  | error error =>
      rw [listed] at names
      cases names
  | ok catalog =>
      rw [listed] at names
      exact ⟨catalog, rfl, Option.some.inj names⟩

def sampleRoom : List Surroundings := List.replicate 8 ⟨0, false, true, true⟩

theorem isFinished_brokenTree :
    ((Producer.start .localStore false (sampleDiscovery.work brokenTree "")).attend
      sampleRoom).2.2.isFinished = true := by
  cbv

/-- A manifest that breaks off is reported; mended, it is listed with two packages of one name. -/
theorem catalog_seen_alike_sample :
    let first := Producer.start .localStore false (sampleDiscovery.work brokenTree "")
    let reached := first.attend sampleRoom
    (Conduct first reached.1 reached.2.1 reached.2.2 ∧ Heard reached.1 ∧
      (∀ moment ∈ reached.1, moment.around.cancelled = false) ∧ reached.2.2.isFinished = true ∧
      .failed .localStore (.store (.invalidManifest "/zip/package.json" .ended)) ∈ reached.2.1) ∧
    ∃ catalog, sampleDiscovery.listAll wholeTree = .ok catalog ∧
      catalog.map Manifest.name = ["pad", "pad", "zip"] ∧
      ∃ actions arrivals pipeline,
        SearchRun ⟨0, 0⟩ (Query.ofText "") (catalogScripts sampleDiscovery wholeTree) actions
          arrivals pipeline ∧ hasReturned pipeline = true ∧
        ∃ hits merged, (Index.empty.rebuild (sampleDiscovery.listAll wholeTree)).1.query
            Index.wildcard = .ok hits ∧ pipeline.state.outcome = .ok merged ∧
          (hits.map Hit.name).Perm ((firstOfEachName merged).map Listing.name) := by
  intro first reached
  have conduct : Conduct first reached.1 reached.2.1 reached.2.2 := .of_attend first sampleRoom
  have around {moment : Moment} (member : moment ∈ reached.1) :
      moment.around = ⟨0, false, true, true⟩ :=
    List.eq_of_mem_replicate (Producer.around_mem_of_mem_attend member)
  have heard : Heard reached.1 := fun moment member => by rw [around member]
  have free : ∀ moment ∈ reached.1, moment.around.cancelled = false :=
    fun moment member => by rw [around member]
  have produces := (catalog_seen_alike sampleDiscovery brokenTree).1 conduct heard free
  have reports := (produces.tallies isFinished_brokenTree).fails_iff
  refine ⟨⟨conduct, heard, free, isFinished_brokenTree, (reports _).1 listAll_brokenTree⟩, ?_⟩
  obtain ⟨catalog, listed, names⟩ := exists_listAll_wholeTree
  obtain ⟨hits, asked, -, alike⟩ :=
    (catalog_seen_alike sampleDiscovery wholeTree).2 catalog listed Index.empty
  obtain ⟨actions, arrivals, pipeline, run, -, -, returns⟩ := exists_searchRun ⟨0, 0⟩
    (Query.ofText "") sampleOracle .anonymous (catalogScripts sampleDiscovery wholeTree)
  have ended : (catalogScripts sampleDiscovery wholeTree).allEnd = true :=
    Bool.and_eq_true_iff.2 ⟨sampleDiscovery.ends_script wholeTree "", rfl⟩
  obtain ⟨merged, outcome, same⟩ := alike run rfl (returns ended)
  exact ⟨catalog, listed, names, actions, arrivals, pipeline, run, returns ended, hits, merged,
    asked, outcome, same⟩

end PackageSearch
