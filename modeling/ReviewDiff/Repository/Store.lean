import ReviewDiff.Work

/-!
# Object stores

The questions that a comparison puts to a repository. Commits do not change, so a file at an
identity has one answer; names of commits, the files of the working tree and the links of the file
system may change between two questions.
-/

set_option autoImplicit false

namespace ReviewDiff

structure ObjectStore (σ : Type) where
  identity : String
  workingDir : String
  links : σ → Path.Links
  resolveRef : String → Work σ String
  readBlob : String → RepoPath → Work σ (Option Bytes)
  readWorktree : RepoPath → Work σ (Option Bytes)

end ReviewDiff
