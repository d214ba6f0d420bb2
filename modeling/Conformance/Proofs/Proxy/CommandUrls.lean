import Conformance.Proofs.Url.Forms
import Conformance.Proofs.Url.Reading
import Conformance.Proxy.Controller

/-!
# The URLs of commands

The URL of a command is made from that of the control endpoint. The command becomes the last segment of
the path, and its arguments become the last parameters of the query; everything else stays.

## Main statements

- `Url.pushSegment?_of_plain` — what becomes of the path
- `ProxyController.commandUrl_keeps_arguments` — what becomes of the URL
-/

namespace Conformance

open UrlPath

/-! ## The path -/

/-- Where empty segments stand at most at the end, the path without that one stays. -/
theorem UrlPath.withoutTrailing_of_dropLast {list : List String} (h : ∀ s ∈ list.dropLast, s ≠ "") :
    (if withoutTrailing list = [""] then [] else withoutTrailing list) =
      if list.getLast? = some "" then list.dropLast else list := by
  by_cases hlast : list.getLast? = some ""
  · rw [if_pos hlast]
    by_cases hlong : 1 < list.length
    · have hwithout : withoutTrailing list = list.dropLast := if_pos ⟨hlast, hlong⟩
      rw [hwithout]
      refine if_neg fun hempty => h "" ?_ rfl
      rw [hempty]
      exact List.mem_singleton_self _
    · -- the empty segment is the only one
      obtain ⟨before, rfl⟩ := List.getLast?_eq_some_iff.mp hlast
      have hnil : before = [] := by
        rw [List.length_append, List.length_singleton] at hlong
        exact List.eq_nil_of_length_eq_zero (by omega)
      subst hnil
      rfl
  · have hwithout : withoutTrailing list = list := if_neg fun hboth => hlast hboth.1
    rw [hwithout, if_neg hlast]
    refine if_neg ?_
    rintro rfl
    exact hlast rfl

/-- A segment that stands for no directory is placed behind the others. -/
theorem PathRules.place_of_plain {rules : PathRules} {p : Placed} {raw : List Char}
    (hfile : rules.file = false) (hdots : isDotDot (rules.encode raw) = false)
    (hdot : isDot (rules.encode raw) = false) (isLast : Bool) :
    rules.place p raw isLast = { p with segments := p.segments ++ [rules.encode raw] } := by
  unfold place placeText
  rw [hfile]
  simp [hdots, hdot]

/-- A segment that needs no encoding comes to the end of a path, in place of an empty one. -/
theorem Url.pushSegment?_of_plain {u : Url} {list : List String} {segment : String}
    (hpath : u.path = .segments list) (hscheme : u.scheme ≠ "file")
    (hencode : u.segmentRules.encode segment.toList = segment) (hdots : isDotDot segment = false)
    (hdot : isDot segment = false) (hempty : ∀ s ∈ list.dropLast, s ≠ "") :
    u.pushSegment? segment = some { u with
      path := .segments ((if list.getLast? = some "" then list.dropLast else list) ++ [segment]) } := by
  have hfile : u.segmentRules.file = false := decide_eq_false hscheme
  have hdirectory : ¬ (segment = "." ∨ segment = "..") := by
    rintro (rfl | rfl)
    · exact absurd hdot (by decide +kernel)
    · exact absurd hdots (by decide +kernel)
  unfold pushSegment?
  rw [hpath]
  dsimp only
  rw [if_neg hdirectory, PathRules.place_of_plain hfile (by rwa [hencode]) (by rwa [hencode]), hencode,
    withoutTrailing_of_dropLast hempty, PathRules.path, hfile]
  rfl

/-! ## The URL -/

namespace ProxyCommand

theorem method_mem (c : ProxyCommand) :
    c.method ∈ ["reject", "accept", "freeze", "thaw", "restart"] := by
  cases c <;> simp [method]

/-- The name of a command stands for no directory. -/
theorem method_not_directory (c : ProxyCommand) : isDotDot c.method = false ∧ isDot c.method = false := by
  have hall : ∀ s ∈ ["reject", "accept", "freeze", "thaw", "restart"],
      isDotDot s = false ∧ isDot s = false := by
    decide +kernel
  exact hall _ c.method_mem

/-- The name of a command needs no encoding. -/
theorem encode_method (c : ProxyCommand) {u : Url} (hscheme : u.scheme = "http") :
    u.segmentRules.encode c.method.toList = c.method := by
  let rules : PathRules := { file := false, hosted := true, set := Encode.specialSegmentSet }
  have hrules : u.segmentRules = rules := by
    unfold Url.segmentRules
    rw [hscheme]
    rfl
  have hall : ∀ s ∈ ["reject", "accept", "freeze", "thaw", "restart"], rules.encode s.toList = s := by
    decide
  rw [hrules]
  exact hall _ c.method_mem

end ProxyCommand

namespace ProxyController

/-- The control endpoint has an `http` URL, and in its path no segment is empty except perhaps the last
one. Every command has a URL then: it differs from that of the endpoint in the command, which comes to
the end of the path, and in the arguments, which are read from the query after the parameters that are
there. -/
theorem commandUrl_keeps_arguments {text : String} {base : Url} (hparse : Url.parse text = .ok base)
    (hscheme : base.scheme = "http") :
    ∃ list, base.path = .segments list ∧
      ((∀ s ∈ list.dropLast, s ≠ "") → ∀ (c : ProxyCommand) (args : List (String × String)),
        ∃ u, commandUrl ⟨some base⟩ c.method args = .ok u ∧
          u.scheme = base.scheme ∧ u.authority = base.authority ∧ u.fragment = base.fragment ∧
          u.path = .segments
            ((if list.getLast? = some "" then list.dropLast else list) ++ [c.method]) ∧
          u.pairs = base.pairs ++ args ∧ (args = [] → u.query = base.query)) := by
  obtain ⟨list, hlist⟩ := Url.segments_of_parse hparse (by rw [hscheme]; decide)
  refine ⟨list, hlist, fun hempty c args => ?_⟩
  let pushed : Url := { base with
    path := .segments ((if list.getLast? = some "" then list.dropLast else list) ++ [c.method]) }
  have hpush : base.pushSegment? c.method = some pushed :=
    Url.pushSegment?_of_plain hlist (by rw [hscheme]; decide) (c.encode_method hscheme)
      c.method_not_directory.1 c.method_not_directory.2 hempty
  have hurl : commandUrl ⟨some base⟩ c.method args = .ok (pushed.appendPairs args) := by
    unfold commandUrl
    dsimp only
    rw [hpush]
  have hkept : pushed.appendPairs args = { pushed with query := (pushed.appendPairs args).query } := by
    unfold Url.appendPairs
    split <;> rfl
  have hpairs : (pushed.appendPairs args).pairs = base.pairs ++ args := Url.pairs_appendPairs pushed args
  refine ⟨pushed.appendPairs args, hurl, ?_, ?_, ?_, ?_, hpairs, ?_⟩
  · rw [hkept]
  · rw [hkept]
  · rw [hkept]
  · rw [hkept]
  · rintro rfl
    rfl

/-- A command with arguments that hold separators, below a URL with a path, a query and a fragment. -/
theorem commandUrl_keeps_separators :
    let base : Url :=
      { scheme := "http", authority := some { host := .name "h", port := some 70 }
        path := .segments ["a", ""], query := some "x=1", fragment := some "f" }
    let args := [("a b", "&=#é"), ("", "")]
    Url.parse "http://h:70/a/?x=1#f" = .ok base ∧ base.scheme = "http" ∧
      ∃ u, commandUrl ⟨some base⟩ ProxyCommand.freeze.method args = .ok u ∧
        u.path = .segments ["a", "freeze"] ∧ u.pairs = ("x", "1") :: args := by
  intro base args
  have hparse : Url.parse "http://h:70/a/?x=1#f" = .ok base := by decide +kernel
  obtain ⟨list, hlist, hurls⟩ := commandUrl_keeps_arguments hparse rfl
  cases hlist
  have hold : base.pairs = [("x", "1")] := by decide +kernel
  obtain ⟨u, hu, -, -, -, hpath, hpairs, -⟩ := hurls (by decide) .freeze args
  rw [hold] at hpairs
  exact ⟨hparse, rfl, u, hu, hpath, hpairs⟩

end ProxyController

end Conformance
