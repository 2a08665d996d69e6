import StaticSite.Proofs.Page.Canonical
import StaticSite.Proofs.Storage.Upload
import StaticSite.Storage.Download

/-!
Contract: work on a bucket.

Owns:
- pieces of work, and the bucket after some of them in a row;
- the law that websites whose ids have no slash have no keys in common;
- what work leaves under the keys of a website for which it stores nothing.

Does not own: what one upload leaves under its own keys (see `StaticSite.Proofs.Storage.Upload`).
-/

namespace StaticSite.Storage

open StaticSite.Page StaticSite.Site

/-! ## Pieces of work -/

/-- A piece of work on a bucket: files of a website are stored, or one is fetched. -/
inductive Work where
  | store (websiteId : String) (files : List (String × File)) (retries : Int)
      (faults : List (Option Fault))
  | fetch (websiteId path : String) (faults : List (Option Fault))

/-- The bucket after a piece of work, whether or not it succeeds. -/
def Work.run (account : Account) (bucket : Bucket) : Work → Bucket
  | .store websiteId files retries faults =>
      (upload account websiteId files retries (.begin bucket faults)).1.bucket
  | .fetch websiteId path faults =>
      (download account websiteId path (.begin bucket faults)).1.bucket

/-- The bucket after pieces of work in a row. -/
def runAll (account : Account) (bucket : Bucket) (works : List Work) : Bucket :=
  works.foldl (Work.run account) bucket

/-- Whether a piece of work stores a file under the keys of a website. -/
def Work.WritesUnder (websiteId : String) : Work → Prop
  | .store other files _ _ =>
      ∃ entry ∈ files, ∃ path, fileKey other entry.1 = fileKey websiteId path
  | .fetch _ _ _ => False

/-! ## Keys of different websites -/

/-- A website whose id has no slash has no keys in common with another such website. -/
theorem fileKey_ne_of_ne {websiteId other : String} (differs : other ≠ websiteId)
    (plain : '/' ∉ websiteId.toList) (otherPlain : '/' ∉ other.toList) (path otherPath : String) :
    fileKey other otherPath ≠ fileKey websiteId path := by
  intro same
  have characters : other.toList ++ '/' :: otherPath.toList =
      websiteId.toList ++ '/' :: path.toList := by
    have sameText := congrArg String.toList same
    simpa [fileKey] using sameText
  apply differs
  exact String.toList_inj.mp (eq_of_append_cons otherPlain plain characters).1

/-! ## What is left alone -/

/-- A request takes its fault from the queue, and changes nothing else. -/
theorem fst_download (account : Account) (websiteId path : String) (session : Session) :
    (download account websiteId path session).1 =
      if account.isComplete then session.afterRequest else session := by
  unfold download
  split
  · dsimp only
    split
    · rfl
    · rfl
    · split
      · rfl
      · rfl
    · rfl
  · rfl

theorem bucket_download (account : Account) (websiteId path : String) (session : Session) :
    (download account websiteId path session).1.bucket = session.bucket := by
  rw [fst_download]
  split
  · rfl
  · rfl

/-- Work that stores nothing under the keys of a website leaves what is there. -/
theorem lookup_run {work : Work} {websiteId : String} (apart : ¬ work.WritesUnder websiteId)
    (account : Account) (bucket : Bucket) (path : String) :
    (work.run account bucket).lookup (fileKey websiteId path) =
      bucket.lookup (fileKey websiteId path) := by
  cases work with
  | store other files retries faults =>
      -- An upload that fails has stored the first files, one that succeeds all of them.
      have isPrefix := uploadedFiles_prefix account other files retries (.begin bucket faults)
      have noObject : (objectsOf other (uploadedFiles account other files retries
          (.begin bucket faults))).reverse.lookup (fileKey websiteId path) = none := by
        apply Association.lookup_eq_none_of_not_mem
        intro isKey
        obtain ⟨object, member, same⟩ := List.mem_map.mp isKey
        obtain ⟨entry, isEntry, rfl⟩ := List.mem_map.mp (List.mem_reverse.mp member)
        exact apart ⟨entry, isPrefix.subset isEntry, path, same⟩
      rw [Work.run, bucket_upload, Association.lookup_bindAll, noObject, Option.none_or]
      rfl
  | fetch other otherPath faults =>
      rw [Work.run, bucket_download]
      rfl

theorem lookup_runAll {works : List Work} {websiteId : String}
    (apart : ∀ work ∈ works, ¬ work.WritesUnder websiteId) (account : Account) (bucket : Bucket)
    (path : String) :
    (runAll account bucket works).lookup (fileKey websiteId path) =
      bucket.lookup (fileKey websiteId path) := by
  induction works generalizing bucket with
  | nil => rfl
  | cons work others inductionHypothesis =>
      obtain ⟨apartFirst, apartOthers⟩ := List.forall_mem_cons.mp apart
      show (runAll account (work.run account bucket) others).lookup _ = _
      rw [inductionHypothesis apartOthers, lookup_run apartFirst]

end StaticSite.Storage
