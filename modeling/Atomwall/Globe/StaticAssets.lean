import Atomwall.Admin.StaticFiles
import Atomwall.Globe.Server

/-!
The files that the public listener of the globe serves: below the static directory, its own script and what is
under `vendor`, and nothing else.
-/

namespace Atomwall.Globe

open FileTree StaticFiles Http ByteString

def assets (tree : FileTree) (staticDir : String) (snapshot : String → JsonObject) : Sources where
  resolveStaticPath target := (resolveStaticPath tree (ofText staticDir) target).map text
  contents path := (tree.contents (ofText path)).getD ""
  mimeTypeFor path := mimeTypeFor (ofText path)
  snapshot := snapshot

variable {tree : FileTree} {staticDir target : String} {snapshot : String → JsonObject} {relative : Path}

theorem requested_embed : requested kEmbedScriptFile = some ["globe-embed.js"] := by
  decide +kernel

theorem requested_vendor (start : startsWith target kVendorPrefix = true)
    (asked : requested target = some relative) : ∃ rest, relative = "vendor" :: rest := by
  obtain ⟨tail, whole⟩ := startsWith_iff.mp start
  have decoded : percentDecode (target.toList.takeWhile (· != '?')) =
      [] ++ '/' :: ("vendor".toList ++ '/' :: percentDecode (tail.takeWhile (· != '?'))) := by
    rw [← whole]
    rfl
  have parts : (percentDecode (target.toList.takeWhile (· != '?'))).splitOn '/' =
      [] :: "vendor".toList :: (percentDecode (tail.takeWhile (· != '?'))).splitOn '/' := by
    rw [decoded, List.splitOn_append_cons_self_of_not_mem List.not_mem_nil,
      List.splitOn_append_cons_self_of_not_mem (by decide)]
  unfold requested at asked
  simp only [parts] at asked
  split at asked
  · cases asked
  · obtain ⟨names, read, rfl⟩ := Option.map_eq_some_iff.mp asked
    have first : relativeOf ([] :: "vendor".toList :: (percentDecode (tail.takeWhile (· != '?'))).splitOn '/') =
        (relativeOf ((percentDecode (tail.takeWhile (· != '?'))).splitOn '/')).map ("vendor" :: ·) := rfl
    rw [first] at read
    obtain ⟨rest, _, rfl⟩ := Option.map_eq_some_iff.mp read
    exact ⟨rest, if_neg (by simp)⟩

theorem assets_file {path : String}
    (free : ∀ canonical, tree.weaklyCanonical (ofText staticDir) = some canonical →
      NoLinksUnder tree (tree.locate canonical))
    (resolved : (assets tree staticDir snapshot).resolveStaticPath target = some path) :
    ∃ canonical relative, tree.weaklyCanonical (ofText staticDir) = some canonical ∧
      requested target = some relative ∧ tree.node (tree.locate canonical ++ relative) =
        some (.file ((assets tree staticDir snapshot).contents path)) := by
  obtain ⟨written, found, rfl⟩ := Option.map_eq_some_iff.mp resolved
  obtain ⟨_, canonical, _, rooted, _⟩ := resolveStaticPath_some found
  obtain ⟨relative, contents, asked, _, back, read, node⟩ := resolveStaticPath_below found rooted (free canonical rooted)
  have same : (assets tree staticDir snapshot).contents (text written) = contents := by
    simp only [assets, back, read, Option.getD_some]
  exact ⟨canonical, relative, rooted, asked, same ▸ node⟩

theorem ofJson_not_file {res : Http.Response} {contents : String} :
    (addCorsHeader (ofJson res)).body ≠ .file contents := by
  simp [addCorsHeader, ofJson]

/-- Where a response is a file, its target was one of the two. -/
theorem route_file {sources : Sources} {request : Request} {contents : String}
    (served : (route sources request).body = .file contents) :
    ∃ target path, (target = kEmbedScriptFile ∨ startsWith target kVendorPrefix = true) ∧
      sources.resolveStaticPath target = some path ∧ contents = sources.contents path := by
  unfold route at served
  simp only at served
  split at served
  · exact absurd served ofJson_not_file
  · split at served
    · unfold handleEmbedScript at served
      split at served
      · exact absurd served ofJson_not_file
      · next path resolved => exact ⟨_, path, .inl rfl, resolved, (Body.file.inj served).symm⟩
    · split at served
      · next start =>
        unfold handleVendorAsset at served
        split at served
        · exact absurd served ofJson_not_file
        · next path resolved => exact ⟨_, path, .inr start, resolved, (Body.file.inj served).symm⟩
      · split at served
        · exact absurd served ofJson_not_file
        · exact absurd served ofJson_not_file

/-- Static serving stays inside its directory, and the public listener inside its script and `vendor`. -/
theorem static_files_stay_inside (tree : FileTree) :
    (∀ root requestTarget path, resolveStaticPath tree root requestTarget = some path →
      ∃ canonicalRoot, tree.weaklyCanonical root = some canonicalRoot ∧
        canonicalRoot.components <+: path.components) ∧
    ∀ staticDir snapshot, (∀ canonicalRoot, tree.weaklyCanonical (ofText staticDir) = some canonicalRoot →
        NoLinksUnder tree (tree.locate canonicalRoot)) →
      ∀ request contents, (route (assets tree staticDir snapshot) request).body = .file contents →
        ∃ canonicalRoot relative, tree.weaklyCanonical (ofText staticDir) = some canonicalRoot ∧
          tree.node (tree.locate canonicalRoot ++ relative) = some (.file contents) ∧
          (relative = ["globe-embed.js"] ∨ ∃ rest, relative = "vendor" :: rest) := by
  constructor
  · intro root requestTarget path resolved
    obtain ⟨_, canonicalRoot, _, rooted, _, inside, _⟩ := resolveStaticPath_some resolved
    exact ⟨canonicalRoot, rooted, inside⟩
  · intro staticDir snapshot free request contents served
    obtain ⟨target, path, asks, resolved, rfl⟩ := route_file served
    obtain ⟨canonicalRoot, relative, rooted, asked, node⟩ := assets_file free resolved
    refine ⟨canonicalRoot, relative, rooted, node, ?_⟩
    rcases asks with rfl | start
    · exact .inl (Option.some.inj (asked.symm.trans requested_embed))
    · exact .inr (requested_vendor start asked)

def sampleEntries : List (Path × Node) :=
  [(["srv"], .directory), (["srv", "index.html"], .file "admin"), (["srv", "vendor"], .directory),
   (["srv", "vendor", "globe.js"], .file "globe")]

def sampleNode (p : Path) : Option Node := (sampleEntries.find? (·.1 == p)).map Prod.snd

theorem sampleNode_entry {p : Path} {node : Node} (found : sampleNode p = some node) : (p, node) ∈ sampleEntries := by
  obtain ⟨entry, first, rfl⟩ := Option.map_eq_some_iff.mp found
  have same : (entry.1 == p) = true := List.find?_some (p := fun entry : Path × Node => entry.1 == p) first
  obtain rfl := beq_iff_eq.mp same
  exact List.mem_of_find?_eq_some first

def sampleTree : FileTree where
  node := sampleNode
  named p name there := by
    obtain ⟨node, found⟩ := Option.ne_none_iff_exists'.mp there
    have named : ∀ entry ∈ sampleEntries, ∀ last, entry.1.getLast? = some last → Plain last ∧ '/' ∉ last.toList := by
      unfold Plain
      decide
    exact named _ (sampleNode_entry found) name List.getLast?_concat
  cwd := []
  cwd_real := .root
  cwd_directory := rfl
  fails _ := false

def Body.isFile (contents : String) : Body → Bool
  | .file found => found == contents
  | .json _ => false

theorem Body.isFile_iff {body : Body} {contents : String} : body.isFile contents = true ↔ body = .file contents := by
  cases body <;> simp [Body.isFile]

def sampleAsset : Request := { methodString := "GET", target := "/vendor//%67lobe.js?v=1" }

theorem static_files_stay_inside_globe :
    ∃ canonicalRoot relative, sampleTree.weaklyCanonical (ofText "/srv") = some canonicalRoot ∧
      sampleTree.node (sampleTree.locate canonicalRoot ++ relative) = some (.file "globe") ∧
      (relative = ["globe-embed.js"] ∨ ∃ rest, relative = "vendor" :: rest) := by
  have free : ∀ p, NoLinksUnder sampleTree p := by
    intro p below target linked
    have entry := sampleNode_entry linked
    simp [sampleEntries] at entry
  exact (static_files_stay_inside sampleTree).2 "/srv" (fun _ => []) (fun _ _ => free _) sampleAsset "globe"
    (Body.isFile_iff.mp (by decide +kernel))

end Atomwall.Globe
