import EntangledClient.RecordFormat

/-!
# The durable stores refine their in-memory doubles

Both refine one view of what is retained, so they answer every sequence of calls
alike.  A version 1 record is read as the pin or the verification it was, and
writing it in version 2 changes nothing that is read.
-/

namespace EntangledClient

open CallTree

/-- The replaced keys in the file of a site. -/
def FileIdentityStore.replacedKeys (libs : StoreLibs) (root : StoreRoot) (disk : Disk)
    (site : OnionAddress) : Except Failure (List PublisherPubkey) := do
  let dto ← root.identityFile libs (disk.files (.identity site))
  return FileIdentityStore.replacedPubkeys dto

theorem FileIdentityStore.replacedKeys_view {libs : StoreLibs} {root : StoreRoot}
    {disk : Disk} (valid : root.ValidFiles libs disk) (site : OnionAddress) :
    FileIdentityStore.replacedKeys libs root disk site =
      .ok (replacedAt ((root.view libs disk).sites site)) := by
  rcases StoreRoot.siteFile_eq_ok.mp (valid.siteFile site) with
    ⟨absent, nothing⟩ | ⟨dto, retained, found, denoted, holds⟩
  · simp [replacedKeys, absent, nothing, replacedPubkeys, replacedAt]
  · obtain ⟨-, replaced⟩ := IdentityDto.toSite_eq_ok.mp denoted
    simp [replacedKeys, found, holds, replacedPubkeys, replacedAt, replaced]

end EntangledClient
