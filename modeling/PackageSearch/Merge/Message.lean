import PackageSearch.Package.Listing
import PackageSearch.Storage.Error
import PackageSearch.Uplink.Error

/-!
# Messages of the merge channel

Every source sends what it finds through one channel: items, then perhaps one failure, then the
notice that it is done. An uplink's item is a batch of listings; a local item is one record, which
is lifted into a listing when it is received.
-/

set_option autoImplicit false

namespace PackageSearch.Merge

open Package (Listing Manifest)

/-- Where an item comes from. -/
inductive SourceId where
  | localStore
  | uplink (name : String)
  deriving DecidableEq

def SourceId.text : SourceId → String
  | localStore => "local"
  | uplink name => name

/-- A manifest read from local storage, and when its directory was changed. -/
structure LocalRecord where
  manifest : Manifest
  modified : Instant

/-- What a source delivers at once. -/
inductive Item where
  | batch (listings : List Listing)
  | single (record : LocalRecord)

def Item.listings : Item → List Listing
  | batch listings => listings
  | single record => [Listing.ofManifest record.manifest (some record.modified)]

/-- Why a source stopped early. -/
inductive Failure where
  | store (error : StoreError)
  | uplink (error : UplinkError)

def Failure.isQuiet : Failure → Bool
  | uplink .cancelled => true
  | _ => false

inductive Message where
  | item (source : SourceId) (item : Item)
  | failed (source : SourceId) (failure : Failure)
  | done (source : SourceId)

end PackageSearch.Merge
