import Orignabase.Lib.Text
import Orignabase.Store.Api
import Mathlib.Data.List.Infix

/-
  Paths of stored files (`ob-storage/src/routes.rs`,
  `ob-storage/src/resumable.rs`, `ob-storage/src/local.rs`).

  Key definitions include:
    * `sanitizeStoragePath`
    * `canUserWritePath`
    * `Resumable.sanitizePath`
    * `LocalStorage.fullPath`
    * `CleanPath`

  Main results:
    * `sanitizeStoragePath_fixed`
    * `canUserWritePath_iff`
    * `storage_path_separates_iff`
-/

--------
-- Sanitising
--------

namespace Orignabase.Storage

/- A path, by its characters. -/
abbrev Path := List Char

abbrev Bytes := List UInt8

/- Remove the occurrences of "..", from left to right. -/
def removeDots : Path → Path
  | '.' :: '.' :: rest => removeDots rest
  | c :: rest => c :: removeDots rest
  | [] => []

theorem removeDots_sublist (path : Path) :
    (removeDots path).Sublist path := by
  fun_induction removeDots path with
  | case1 rest ih =>
    exact (ih.trans (List.sublist_cons_self _ _)).trans
      (List.sublist_cons_self _ _)
  | case2 c rest _ ih => exact ih.cons_cons c
  | case3 => exact List.Sublist.refl _

variable {path clean : Path}

/- A round that changes the path shortens it. -/
theorem removeDots_length_lt
    (hChanged : removeDots path ≠ path) :
    (removeDots path).length < path.length := by
  have hSublist := removeDots_sublist path
  refine Nat.lt_of_le_of_ne hSublist.length_le ?_
  intro hLength
  exact hChanged (hSublist.eq_of_length hLength)

/- Remove ".." until nothing changes. -/
def stripDots (path : Path) : Path :=
  if removeDots path = path then path
  else stripDots (removeDots path)
termination_by path.length
decreasing_by
  rename_i hChanged
  exact removeDots_length_lt hChanged

/- What all the sanitisers make of a path. -/
def cleaned (path : Path) : Path :=
  (stripDots (Text.replaceChar '\\' ['/'] path)).dropWhile
    (fun c => c = '/')

/- Some component is "." or, in a path with "//", empty. -/
def hasInvalidComponent (path : Path) : Bool :=
  (path.splitOn '/').any (fun component =>
    component = ['.'] ||
      component.isEmpty && decide (['/', '/'] <:+: path))

def sanitizeStoragePath (path : Path) : Except Error Path :=
  let sanitized := cleaned path
  if sanitized = [] then
    .error (.validation "Path cannot be empty")
  else if hasInvalidComponent sanitized then
    .error (.validation "Invalid path component")
  else .ok sanitized

def isPublicReadPath (path : Path) : Bool :=
  "products/".toList.isPrefixOf path ||
    "products/videos/".toList.isPrefixOf path

def hasRole (auth : AuthContext) (role : String) : Bool :=
  auth.roles.contains role

def canUserWritePath
    (auth : AuthContext)
    (path : Path) : Bool :=
  if !auth.authenticated || auth.userId = "" then false
  else if
    "products/".toList.isPrefixOf path ||
      "products/videos/".toList.isPrefixOf path then
    decide ('/' :: (auth.userId.toList ++ ['/']) <:+: path) ||
      hasRole auth "admin"
  else
    ("users/".toList ++ auth.userId.toList ++ ['/']).isPrefixOf
        path ||
      ("reviews/".toList ++ auth.userId.toList ++
        ['/']).isPrefixOf path

/- The sanitiser of `ResumableUploadManager`. -/
def Resumable.sanitizePath (path : Path) :
    Except Error Path :=
  let sanitized := cleaned path
  if sanitized = [] then
    .error (.validation "Path cannot be empty")
  else .ok sanitized

/- What the file system tells about a path. -/
structure FileSystem where
  found : Path → Bool
  canonicalize : Path → Option Path

/- `PathBuf::join` -/
def joinPath (root path : Path) : Path :=
  if path.head? = some '/' then path
  else if root = [] || root.getLast? = some '/' then
    root ++ path
  else root ++ '/' :: path

/- `Path::starts_with`, component by component. -/
def startsWithPath (path root : Path) : Bool :=
  ((root.splitOn '/').filter (· ≠ [])).isPrefixOf
    ((path.splitOn '/').filter (· ≠ []))

/-
  The file of a path below the root.  A file that exists is
  given by its canonical name.
-/
def locate
    (fs : FileSystem)
    (root full : Path) : Except Error Path :=
  if fs.found full then
    match fs.canonicalize full with
    | some canonical =>
      if startsWithPath canonical root then .ok canonical
      else .error (.forbidden "Path traversal detected")
    | none => .ok full
  else .ok full

def LocalStorage.fullPath
    (fs : FileSystem)
    (root path : Path) : Except Error Path :=
  locate fs root (joinPath root (cleaned path))

--------
-- Sanitised Paths
--------

/- Nothing is removed from a path without "..". -/
theorem removeDots_eq_self_iff {path : Path} :
    removeDots path = path ↔ ¬ ['.', '.'] <:+: path := by
  fun_induction removeDots path with
  | case1 rest _ =>
    constructor
    · intro hSame
      have hLength := (removeDots_sublist rest).length_le
      rw [hSame] at hLength
      simp only [List.length_cons] at hLength
      omega
    · intro hNot
      exact absurd (List.prefix_append _ rest).isInfix hNot
  | case2 c rest hNoPair ih =>
    rw [List.cons_inj_right, ih, List.infix_cons_iff,
      not_or, iff_and_self]
    rintro - ⟨tail, hPrefix⟩
    simp only [List.cons_append, List.nil_append,
      List.cons.injEq] at hPrefix
    exact hNoPair tail hPrefix.1.symm hPrefix.2.symm
  | case3 => simp

theorem stripDots_of_not_infix
    (hNot : ¬ ['.', '.'] <:+: path) :
    stripDots path = path := by
  rw [stripDots, if_pos (removeDots_eq_self_iff.mpr hNot)]

theorem not_infix_stripDots (path : Path) :
    ¬ ['.', '.'] <:+: stripDots path := by
  fun_induction stripDots path with
  | case1 path hSame => exact removeDots_eq_self_iff.mp hSame
  | case2 path _ ih => exact ih

theorem stripDots_sublist (path : Path) :
    (stripDots path).Sublist path := by
  fun_induction stripDots path with
  | case1 path _ => exact List.Sublist.refl _
  | case2 path _ ih =>
    exact ih.trans (removeDots_sublist path)

/- What sanitising leaves of a path. -/
structure CleanPath (path : Path) : Prop where
  noDots : ¬ ['.', '.'] <:+: path
  noBackslash : '\\' ∉ path
  relative : path.head? ≠ some '/'
  nonempty : path ≠ []
  components :
    ∀ component ∈ (path.splitOn '/').dropLast,
      component ≠ [] ∧ component ≠ ['.']

theorem notMem_replaceChar
    {c : Char}
    {by_ : List Char}
    (hOther : c ∉ by_)
    (path : Path) :
    c ∉ Text.replaceChar c by_ path := by
  intro hMem
  rcases List.mem_flatMap.mp hMem with ⟨d, _, hHere⟩
  split at hHere
  · exact hOther hHere
  · rename_i hNe
    rw [List.mem_singleton] at hHere
    exact hNe hHere.symm

theorem cleaned_suffix (path : Path) :
    cleaned path <:+
      stripDots (Text.replaceChar '\\' ['/'] path) :=
  List.dropWhile_suffix _

/- Sanitising again changes nothing. -/
theorem cleaned_of_clean
    (hDots : ¬ ['.', '.'] <:+: path)
    (hBackslash : '\\' ∉ path)
    (hRelative : path.head? ≠ some '/') :
    cleaned path = path := by
  rw [cleaned, Text.replaceChar_of_notMem _ hBackslash,
    stripDots_of_not_infix hDots]
  rcases path with _ | ⟨c, rest⟩
  · rfl
  · have hNe : c ≠ '/' := by
      intro hSlash
      exact hRelative (congrArg some hSlash)
    exact List.dropWhile_cons_of_neg (by simpa using hNe)

theorem head_cleaned (path : Path) :
    (cleaned path).head? ≠ some '/' := by
  intro hHead
  have hNot :=
    List.head?_dropWhile_not (fun c => decide (c = '/'))
      (stripDots (Text.replaceChar '\\' ['/'] path))
  rw [cleaned] at hHead
  rw [hHead] at hNot
  simp at hNot

/- An empty component before the last one. -/
theorem infix_of_empty_component
    (hRelative : path.head? ≠ some '/')
    (hEmpty : [] ∈ (path.splitOn '/').dropLast) :
    ['/', '/'] <:+: path := by
  rcases List.exists_cons_of_ne_nil
      (List.splitOn_ne_nil '/' path) with
    ⟨first, rest, hSplit⟩
  rcases rest with _ | ⟨next, rest⟩
  · rw [hSplit] at hEmpty
    exact absurd hEmpty List.not_mem_nil
  · rw [hSplit, List.dropLast_cons_cons,
      List.mem_cons] at hEmpty
    rcases hEmpty with hFirst | hLater
    · have hPath : ['/'].intercalate (path.splitOn '/') = path :=
        List.intercalate_splitOn '/'
      rw [hSplit, ← hFirst, Text.intercalate_cons_cons]
        at hPath
      rw [← hPath] at hRelative
      exact absurd rfl hRelative
    · have hNoSlash : '/' ∉ ([] : Path) := List.not_mem_nil
      apply (Text.mem_between_iff hNoSlash).mp
      rw [Text.between, hSplit, List.tail_cons]
      exact hLater

theorem clean_of_sanitize
    (hSanitize : sanitizeStoragePath path = .ok clean) :
    CleanPath clean := by
  simp only [sanitizeStoragePath] at hSanitize
  split at hSanitize
  · cases hSanitize
  rename_i hNonempty
  split at hSanitize
  · cases hSanitize
  rename_i hComponents
  cases hSanitize
  have hSuffix := cleaned_suffix path
  refine
    { noDots := fun hDots =>
        not_infix_stripDots _ (hDots.trans hSuffix.isInfix)
      noBackslash := ?_
      relative := head_cleaned path
      nonempty := hNonempty
      components := ?_ }
  · intro hMem
    exact notMem_replaceChar (by decide) path
      ((stripDots_sublist _).mem (hSuffix.mem hMem))
  · intro component hMem
    have hValid :
        ¬ (component = ['.'] ∨
          component = [] ∧ ['/', '/'] <:+: cleaned path) := by
      intro hInvalid
      apply hComponents
      rw [hasInvalidComponent, List.any_eq_true]
      exact ⟨component, List.dropLast_subset _ hMem,
        by simpa using hInvalid⟩
    rw [not_or] at hValid
    refine ⟨?_, hValid.1⟩
    rintro rfl
    exact hValid.2
      ⟨rfl, infix_of_empty_component (head_cleaned path) hMem⟩

/- A sanitised path is left as it is by all sanitisers. -/
theorem cleaned_sanitized
    (hSanitize : sanitizeStoragePath path = .ok clean) :
    cleaned clean = clean := by
  have hClean := clean_of_sanitize hSanitize
  exact cleaned_of_clean hClean.noDots hClean.noBackslash
    hClean.relative

theorem sanitizeStoragePath_fixed
    (hSanitize : sanitizeStoragePath path = .ok clean) :
    sanitizeStoragePath clean = .ok clean := by
  have hCleaned := cleaned_sanitized hSanitize
  simp only [sanitizeStoragePath] at hSanitize
  split at hSanitize
  · cases hSanitize
  rename_i hNonempty
  split at hSanitize
  · cases hSanitize
  rename_i hComponents
  cases hSanitize
  simp only [sanitizeStoragePath, hCleaned]
  rw [if_neg hNonempty, if_neg hComponents]

theorem Resumable.sanitizePath_fixed
    (hSanitize : sanitizeStoragePath path = .ok clean) :
    Resumable.sanitizePath clean = .ok clean := by
  simp only [Resumable.sanitizePath,
    cleaned_sanitized hSanitize]
  exact if_neg (clean_of_sanitize hSanitize).nonempty

--------
-- Files Below The Root
--------

/- A sanitised path is written to its place below the root. -/
theorem fullPath_sanitized
    (hSanitize : sanitizeStoragePath path = .ok clean)
    (fs : FileSystem)
    (root : Path) :
    LocalStorage.fullPath fs root clean =
      locate fs root (joinPath root clean) := by
  rw [LocalStorage.fullPath, cleaned_sanitized hSanitize]

/- Where a path leads, if it leads anywhere. -/
theorem locate_ok
    {fs : FileSystem}
    {root full file : Path}
    (hLocate : locate fs root full = .ok file) :
    file = full ∨ fs.canonicalize full = some file := by
  unfold locate at hLocate
  split at hLocate
  · split at hLocate
    · rename_i canonical hCanonical
      split at hLocate
      · cases hLocate
        exact Or.inr hCanonical
      · cases hLocate
    · cases hLocate
      exact Or.inl rfl
  · cases hLocate
    exact Or.inl rfl

--------
-- Writers
--------

/- An authenticated user without the role "admin". -/
structure OrdinaryUser (auth : AuthContext) : Prop where
  authenticated : auth.authenticated = true
  notAdmin : hasRole auth "admin" = false
  plainId : '/' ∉ auth.userId.toList

/- The components between the first and the last one. -/
def directories (path : Path) : List Path :=
  Text.between '/' path

def isProductPath (path : Path) : Bool :=
  "products/".toList.isPrefixOf path

theorem isPrefixOf_videos
    (hVideos : "products/videos/".toList <+: path) :
    "products/".toList <+: path :=
  List.IsPrefix.trans (by decide) hVideos

/- The first two components of a path. -/
theorem splitOn_of_prefix
    {folder id : Path}
    (hFolder : '/' ∉ folder)
    (hId : '/' ∉ id)
    (hPrefix : folder ++ '/' :: (id ++ ['/']) <+: path) :
    ∃ rest, path.splitOn '/' = folder :: id :: rest := by
  rcases hPrefix with ⟨tail, rfl⟩
  refine ⟨tail.splitOn '/', ?_⟩
  rw [List.append_assoc, List.cons_append,
    List.append_assoc,
    List.splitOn_append_cons_self_of_not_mem hFolder,
    List.singleton_append,
    List.splitOn_append_cons_self_of_not_mem hId]

theorem canUserWritePath_iff
    {auth : AuthContext}
    (hUser : OrdinaryUser auth)
    (path : Path) :
    canUserWritePath auth path = true ↔ auth.userId ≠ "" ∧
        if isProductPath path = true then
          auth.userId.toList ∈ directories path
        else
          "users".toList ++
                '/' :: (auth.userId.toList ++ ['/']) <+:
              path ∨
            "reviews".toList ++
                '/' :: (auth.userId.toList ++ ['/']) <+:
              path := by
  unfold canUserWritePath
  rw [hUser.authenticated]
  by_cases hId : auth.userId = ""
  · simp [hId]
  have hNamed :
      (!true || decide (auth.userId = "")) = false := by
    simp [hId]
  rw [hNamed, if_neg Bool.false_ne_true]
  have hProducts :
      ("products/".toList.isPrefixOf path ||
          "products/videos/".toList.isPrefixOf path) =
        isProductPath path := by
    rw [isProductPath, Bool.or_eq_left_iff_imp]
    intro hVideos
    exact List.isPrefixOf_iff_prefix.mpr
      (isPrefixOf_videos (List.isPrefixOf_iff_prefix.mp hVideos))
  rw [hProducts]
  by_cases hPath : isProductPath path = true
  · rw [if_pos hPath, if_pos hPath, hUser.notAdmin,
      Bool.or_false, decide_eq_true_iff, directories,
      Text.mem_between_iff hUser.plainId]
    exact ⟨fun hInfix => ⟨hId, hInfix⟩, fun h => h.2⟩
  · rw [if_neg hPath, if_neg hPath, Bool.or_eq_true,
      List.isPrefixOf_iff_prefix,
      List.isPrefixOf_iff_prefix]
    have hUsers :
        "users/".toList ++ auth.userId.toList ++ ['/'] =
          "users".toList ++
            '/' :: (auth.userId.toList ++ ['/']) := by
      simp
    have hReviews :
        "reviews/".toList ++ auth.userId.toList ++ ['/'] =
          "reviews".toList ++
            '/' :: (auth.userId.toList ++ ['/']) := by
      simp
    rw [hUsers, hReviews]
    exact ⟨fun hPrefix => ⟨hId, hPrefix⟩, fun h => h.2⟩

/- A path outside the products has one writer. -/
theorem one_writer_outside_products
    {a b : AuthContext}
    (hA : OrdinaryUser a)
    (hB : OrdinaryUser b)
    (hPath : isProductPath path = false)
    (hWriteA : canUserWritePath a path = true)
    (hWriteB : canUserWritePath b path = true) :
    a.userId = b.userId := by
  have hOwn :
      ∀ {auth : AuthContext}, OrdinaryUser auth →
        canUserWritePath auth path = true →
        ∃ folder rest, path.splitOn '/' =
            folder :: auth.userId.toList :: rest := by
    intro auth hUser hWrite
    have hPrefix :=
      ((canUserWritePath_iff hUser path).mp hWrite).2
    rw [if_neg (by simp [hPath])] at hPrefix
    rcases hPrefix with hPrefix | hPrefix
    · rcases splitOn_of_prefix (by decide) hUser.plainId
          hPrefix with ⟨rest, hSplit⟩
      exact ⟨_, rest, hSplit⟩
    · rcases splitOn_of_prefix (by decide) hUser.plainId
          hPrefix with ⟨rest, hSplit⟩
      exact ⟨_, rest, hSplit⟩
  rcases hOwn hA hWriteA with ⟨folderA, restA, hSplitA⟩
  rcases hOwn hB hWriteB with ⟨folderB, restB, hSplitB⟩
  rw [hSplitA] at hSplitB
  have hIds := (List.cons.inj (List.cons.inj hSplitB).2).1
  exact String.toList_injective hIds

/-
  What is promised of a sanitised path: all sanitisers agree
  on it, its file is at its place below the root, and two
  users may not both write it.
-/
structure Separates
    (fs : FileSystem)
    (root path : Path)
    (a b : AuthContext) : Prop where
  clean : CleanPath path
  sanitized : sanitizeStoragePath path = .ok path
  resumable : Resumable.sanitizePath path = .ok path
  located :
    LocalStorage.fullPath fs root path =
      locate fs root (joinPath root path)
  file :
    ∀ file, LocalStorage.fullPath fs root path = .ok file →
      file = joinPath root path ∨
        fs.canonicalize (joinPath root path) = some file
  oneWriter :
    ¬ (canUserWritePath a path = true ∧
      canUserWritePath b path = true)

/-
  Users are separated on every path but a product path that
  has both of their ids among its directories.
-/
theorem storage_path_separates_iff
    (fs : FileSystem)
    (root : Path)
    {path clean : Path}
    (hSanitize : sanitizeStoragePath path = .ok clean)
    {a b : AuthContext}
    (hA : OrdinaryUser a)
    (hB : OrdinaryUser b)
    (hDistinct : a.userId ≠ b.userId) :
    Separates fs root clean a b ↔
      ¬ (isProductPath clean = true ∧
        a.userId.toList ∈ directories clean ∧
        b.userId.toList ∈ directories clean) := by
  have hClean := clean_of_sanitize hSanitize
  have hNamed :
      ∀ {auth : AuthContext},
        auth.userId.toList ∈ directories clean →
          auth.userId ≠ "" := by
    intro auth hMem hEmpty
    rw [hEmpty] at hMem
    have hBefore :
        [] ∈ (clean.splitOn '/').dropLast := by
      rw [directories, Text.between,
        ← List.tail_dropLast] at hMem
      exact List.mem_of_mem_tail hMem
    exact (hClean.components [] hBefore).1 rfl
  constructor
  · rintro hSeparates ⟨hProduct, hDirA, hDirB⟩
    refine hSeparates.oneWriter ⟨?_, ?_⟩
    · rw [canUserWritePath_iff hA, if_pos hProduct]
      exact ⟨hNamed hDirA, hDirA⟩
    · rw [canUserWritePath_iff hB, if_pos hProduct]
      exact ⟨hNamed hDirB, hDirB⟩
  · intro hApart
    refine
      { clean := hClean
        sanitized := sanitizeStoragePath_fixed hSanitize
        resumable := Resumable.sanitizePath_fixed hSanitize
        located := fullPath_sanitized hSanitize fs root
        file := ?_
        oneWriter := ?_ }
    · intro file hFile
      rw [fullPath_sanitized hSanitize] at hFile
      exact locate_ok hFile
    · rintro ⟨hWriteA, hWriteB⟩
      cases hProduct : isProductPath clean with
      | false =>
        exact hDistinct
          (one_writer_outside_products hA hB hProduct
            hWriteA hWriteB)
      | true =>
        rw [canUserWritePath_iff hA, if_pos hProduct]
          at hWriteA
        rw [canUserWritePath_iff hB, if_pos hProduct]
          at hWriteB
        exact hApart ⟨hProduct, hWriteA.2, hWriteB.2⟩

/- Two sellers, and a picture of the first one. -/
def seller (id : String) : AuthContext :=
  { userId := id, roles := ["seller"] }

def emptyDisk : FileSystem where
  found := fun _ => false
  canonicalize := fun _ => none

theorem sanitize_plain
    (hClean :
      ¬ ['.', '.'] <:+: path ∧ '\\' ∉ path ∧
        path.head? ≠ some '/' ∧ path ≠ [] ∧
        hasInvalidComponent path = false) :
    sanitizeStoragePath path = .ok path := by
  rcases hClean with
    ⟨hDots, hBackslash, hRelative, hNonempty, hValid⟩
  simp only [sanitizeStoragePath,
    cleaned_of_clean hDots hBackslash hRelative]
  rw [if_neg hNonempty, if_neg (by simp [hValid])]

theorem ordinary_sellers :
    OrdinaryUser (seller "u1") ∧ OrdinaryUser (seller "u2") :=
  ⟨⟨rfl, rfl, by decide⟩,
    ⟨rfl, rfl, by decide⟩⟩

theorem separates_own_picture :
    Separates emptyDisk "/data".toList
      "products/u1/front.png".toList (seller "u1")
      (seller "u2") := by
  have hPlain :
      sanitizeStoragePath "products/u1/front.png".toList =
        .ok "products/u1/front.png".toList :=
    sanitize_plain (by decide)
  refine (storage_path_separates_iff emptyDisk
    "/data".toList hPlain ordinary_sellers.1
    ordinary_sellers.2 ?_).mpr ?_
  · decide
  · decide

/- A path in the folders of two sellers. -/
theorem shared_product_path :
    sanitizeStoragePath "products/u1/u2/front.png".toList =
        .ok "products/u1/u2/front.png".toList ∧
      (seller "u1").userId ≠ (seller "u2").userId ∧
      canUserWritePath (seller "u1")
        "products/u1/u2/front.png".toList = true ∧
      canUserWritePath (seller "u2")
        "products/u1/u2/front.png".toList = true :=
  ⟨sanitize_plain (by decide), by decide⟩

end Orignabase.Storage
