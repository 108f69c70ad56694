import Mathlib.Data.List.Basic
import Mathlib.Data.List.Flatten
import Mathlib.Tactic.MkIffOfInductiveProp
import NodeCanvas.Proofs.UrlPaths
import NodeCanvas.Remote.Route
/-!
# What requests address

Nine requests are about one node, one connection or one debug session, and name it in their path
(`Request.subject?`). Ids stand there as they are, and the URL is read with them: a slash cuts an
id, a question mark ends the path, dots lead out of it, and escapes stand for other characters. So
requests about different nodes may have one path (`different_ids_share_path`).

`Addressable` says which ids come through. For these and for no others the route of a request finds
the id in the path, and requests about different ones have different paths
(`requests_address_entities`).
-/

namespace NodeCanvas

open Url

variable {atEnd : Bool} {id : String}

/-! ## Routes with ids -/

inductive EntityKind where
  | node
  | connection
  | session
  deriving DecidableEq

/-- What a request may be about. -/
structure Entity where
  kind : EntityKind
  id : String
  deriving DecidableEq

/-- The route of a request: the segments before the id, and the one after it. -/
structure IdRoute where
  before : List String
  after : Option String := none

/-- The segments that tell what kind of id follows. -/
def EntityKind.lead : EntityKind → List String
  | .node => ["api", "canvas", "nodes"]
  | .connection => ["api", "canvas", "connections"]
  | .session => ["api", "execution", "multi-debug"]

/-- How many segments stand before an id. -/
def EntityKind.depth : EntityKind → Nat
  | .node | .connection => 3
  | .session => 4

/-- What a request is about, and its route. -/
def Request.subject? {R : Type} : Request R → Option (Entity × IdRoute)
  | .deleteNode id => some (⟨.node, id⟩, ⟨EntityKind.node.lead, none⟩)
  | .moveNode id _ => some (⟨.node, id⟩, ⟨EntityKind.node.lead, some "move"⟩)
  | .updateParameters id _ => some (⟨.node, id⟩, ⟨EntityKind.node.lead, some "parameters"⟩)
  | .updateMetadata id _ => some (⟨.node, id⟩, ⟨EntityKind.node.lead, some "metadata"⟩)
  | .updatePorts id _ => some (⟨.node, id⟩, ⟨EntityKind.node.lead, some "ports"⟩)
  | .deleteConnection id => some (⟨.connection, id⟩, ⟨EntityKind.connection.lead, none⟩)
  | .startSession id => some (⟨.session, id⟩, ⟨EntityKind.session.lead ++ ["start"], none⟩)
  | .stepSession id _ => some (⟨.session, id⟩, ⟨EntityKind.session.lead ++ ["step"], none⟩)
  | .stopSession id => some (⟨.session, id⟩, ⟨EntityKind.session.lead ++ ["stop"], none⟩)
  | _ => none

/-- The segments of the path that a request line names. -/
def HttpCall.pathSegments (target : String) : List String :=
  (Text.splitOn (· == '/') (target.toList.takeWhile (· != '?'))).tail.map String.ofList

/-- The id that a backend at some segments finds in a path on a route. -/
def IdRoute.capture? (route : IdRoute) (mount : List String) (target : String) : Option String := do
  let parts := HttpCall.pathSegments target
  let segment ← parts[(mount ++ route.before).length]?
  if segment ≠ "" ∧ parts = mount ++ route.before ++ segment :: route.after.toList then
    Percent.decode? segment.toList
  else none

/-- An id that comes through a path, which may end with it: decoding leaves it as it is, and nothing
in it is taken for a part of the path or left out. -/
@[mk_iff]
structure Addressable (atEnd : Bool) (id : String) : Prop where
  nonempty : id ≠ ""
  not_oneDot : isOneDot id.toList = false
  not_twoDots : isTwoDots id.toList = false
  plain : id.toList.all (fun c => !isSlash c && !endsPath c && isKept c) = true
  decoded : Percent.decode? id.toList = some id
  trimmed : atEnd = true → trimEnd id.toList = id.toList

instance (atEnd : Bool) (id : String) : Decidable (Addressable atEnd id) :=
  decidable_of_iff _ (addressable_iff atEnd id).symm

namespace IdRoute

/-- A segment of a route, which is written as it is. -/
def Ordinary (segment : String) : Prop :=
  Addressable true segment ∧ encoded Percent.inPath segment.toList = segment

instance (segment : String) : Decidable (Ordinary segment) := instDecidableAnd

/-- A route to what is of some kind. -/
def LeadsTo (route : IdRoute) (kind : EntityKind) : Prop :=
  route.before.take 3 = kind.lead ∧ route.before.length = kind.depth ∧
    (∀ segment ∈ route.before, Ordinary segment) ∧ ∀ segment ∈ route.after, Ordinary segment

instance (route : IdRoute) (kind : EntityKind) : Decidable (route.LeadsTo kind) := instDecidableAnd

/-- The text of a route after the first slash. -/
def text (route : IdRoute) (id : List Char) : List Char :=
  route.before.flatMap (·.toList ++ ['/']) ++ (id ++ route.after.elim [] ('/' :: ·.toList))

end IdRoute

theorem Request.path_of_subject? {R : Type} [Scalar R] {r : Request R} {e : Entity}
    {route : IdRoute} (h : r.subject? = some (e, route)) :
    route.LeadsTo e.kind ∧
      ∃ call, r.calls = [call] ∧ call.path.toList = '/' :: route.text e.id.toList := by
  cases r <;> cases h <;> refine ⟨by dsimp only; decide +kernel, _, rfl, ?_⟩ <;>
    simp [IdRoute.text, EntityKind.lead, Route.node, Route.nodes, Route.connection,
      Route.connections, Route.sessions, HttpCall.delete, HttpCall.post, HttpCall.put,
      HttpCall.patch]

/-! ## The path of a request -/

theorem splitOn_parts {parts : List String} (h : ∀ part ∈ parts, Plain part) {first : List Char}
    (hfirst : ∀ c ∈ first, (c == '/') = false) :
    Text.splitOn (· == '/') (first ++ parts.flatMap ('/' :: ·.toList)) =
      first :: parts.map String.toList := by
  induction parts generalizing first with
  | nil => rw [List.flatMap_nil, List.append_nil, Text.splitOn_eq_singleton hfirst, List.map_nil]
  | cons part parts ih =>
    have hpart : ∀ c ∈ part.toList, (c == '/') = false :=
      fun c hc => by simpa using (h part List.mem_cons_self c hc).1
    rw [List.flatMap_cons, List.cons_append, Text.splitOn_append_cons rfl,
      Text.splitOn_eq_singleton hfirst, ih (fun p hp => h p (.tail _ hp)) hpart]
    rfl

theorem pathSegments_target {u : Url} {parts : List String} (hpath : u.path = .segments parts)
    (h : ∀ part ∈ parts, Plain part) : HttpCall.pathSegments u.target = parts := by
  have hquery : (markedText "?" u.query).toList.takeWhile (· != '?') = [] := by
    cases u.query <;> simp [markedText]
  have hplain : ∀ c ∈ parts.flatMap ('/' :: ·.toList), (c != '?') = true := by
    intro c hc
    obtain ⟨part, hpart, hc⟩ := List.mem_flatMap.1 hc
    obtain rfl | hc := List.mem_cons.1 hc
    · rfl
    · simpa using (h part hpart c hc).2
  have htarget : u.target.toList =
      parts.flatMap ('/' :: ·.toList) ++ (markedText "?" u.query).toList := by
    rw [target, hpath, pathText, String.toList_append]
    simp [List.flatMap_map]
  rw [HttpCall.pathSegments, htarget, List.takeWhile_append_of_pos hplain, hquery, List.append_nil]
  have hsplit := splitOn_parts h (List.forall_mem_nil _)
  rw [List.nil_append] at hsplit
  simp [hsplit]

theorem pathPart_sublist (atEnd : Bool) (text : List Char) :
    (pathPart atEnd text).Sublist (text.filter isKept) ∧
      (pathPart true text).Sublist (trimEnd text) ∧ (trimEnd text).Sublist text := by
  have htrim : (trimEnd text).Sublist text := by
    simpa [trimEnd] using (List.dropWhile_sublist (fun c : Char => decide (c.toNat ≤ 0x20))
      (l := text.reverse)).reverse
  refine ⟨(List.takeWhile_sublist _).trans ?_, (List.takeWhile_sublist _).trans List.filter_sublist,
    htrim⟩
  cases atEnd with
  | true => exact htrim.filter isKept
  | false => exact List.Sublist.refl _

/-- A text comes into a path as a whole if nothing in it ends the path or is left out. -/
theorem pathPart_eq_self_iff {text : List Char} :
    pathPart atEnd text = text ↔ (∀ c ∈ text, endsPath c = false ∧ isKept c = true) ∧
      (atEnd = true → trimEnd text = text) := by
  obtain ⟨hkept, htrim, htrim'⟩ := pathPart_sublist atEnd text
  constructor
  · intro h
    rw [h] at hkept
    have hfilter := List.filter_sublist.antisymm hkept
    refine ⟨fun c hc => ⟨?_, List.filter_eq_self.1 hfilter c hc⟩, ?_⟩
    · rw [← h] at hc
      simpa using List.mem_takeWhile_imp hc
    · rintro rfl
      rw [h] at htrim
      exact htrim'.antisymm htrim
  · rintro ⟨hchars, hend⟩
    have htext : (bif atEnd then trimEnd text else text) = text := by
      cases atEnd with
      | true => exact hend rfl
      | false => rfl
    rw [pathPart, htext, List.filter_eq_self.2 fun c hc => (hchars c hc).2,
      List.takeWhile_eq_self_iff.2 fun c hc => by simp [(hchars c hc).1]]

/-- A slash ends a piece, if the path has not ended before. -/
theorem pieces_append_slash (text rest : List Char) :
    pieces (text ++ '/' :: rest) = Text.splitOn isSlash (pathPart false text) ++
      if pathPart false text = text.filter isKept then pieces rest else [] := by
  unfold pieces pathPart
  simp only [cond_true, cond_false]
  rw [trimEnd_append_cons (by decide), List.filter_append, List.filter_cons_of_pos (by decide),
    List.takeWhile_append]
  split
  · rename_i hlength
    have hall := (List.takeWhile_sublist _).eq_of_length hlength
    rw [List.takeWhile_cons_of_pos (by decide), Text.splitOn_append_cons (by decide), hall,
      if_pos rfl]
  · rename_i hlength
    rw [if_neg fun hall => hlength (congrArg List.length hall), List.append_nil]

theorem Addressable.pathPart (h : Addressable atEnd id) :
    pathPart atEnd id.toList = id.toList ∧ Text.splitOn isSlash id.toList = [id.toList] := by
  have hplain := h.plain
  simp only [List.all_eq_true, Bool.and_eq_true, Bool.not_eq_true'] at hplain
  exact ⟨pathPart_eq_self_iff.2 ⟨fun c hc => ⟨(hplain c hc).1.2, (hplain c hc).2⟩, h.trimmed⟩,
    Text.splitOn_eq_singleton fun c hc => (hplain c hc).1.1⟩

theorem Addressable.weaken (h : Addressable true id) (atEnd : Bool) : Addressable atEnd id :=
  { h with trimmed := fun _ => h.trimmed rfl }

namespace IdRoute

variable {route : IdRoute} {kind : EntityKind}

/-- An ordinary segment is one piece. -/
theorem Ordinary.pieces_append {segment : String} (h : Ordinary segment) (rest : List Char) :
    pieces (segment.toList ++ '/' :: rest) = segment.toList :: pieces rest := by
  have hpart := (pathPart_eq_self_iff.1 h.1.pathPart.1).1
  have hwhole : pathPart false segment.toList = segment.toList :=
    pathPart_eq_self_iff.2 ⟨hpart, fun h => by cases h⟩
  rw [pieces_append_slash, hwhole, h.1.pathPart.2, if_pos]
  · rfl
  · exact (List.filter_eq_self.2 fun c hc => (hpart c hc).2).symm

theorem LeadsTo.pieces_text (h : route.LeadsTo kind) (id : List Char) :
    ∃ rest, pieces (route.text id) = route.before.map String.toList ++
        (Text.splitOn isSlash (pathPart route.after.isNone id) ++ rest.map String.toList) ∧
      (∀ segment ∈ rest, Ordinary segment) ∧
      (pathPart route.after.isNone id = id → rest = route.after.toList) := by
  obtain ⟨before, after⟩ := route
  obtain ⟨-, -, hbefore, hafter⟩ := h
  have hlast : ∃ rest, pieces (id ++ after.elim [] ('/' :: ·.toList)) =
      Text.splitOn isSlash (pathPart after.isNone id) ++ rest.map String.toList ∧
      (∀ segment ∈ rest, Ordinary segment) ∧
      (pathPart after.isNone id = id → rest = after.toList) := by
    rcases after with _ | segment
    · exact ⟨[], by simp [pieces], by simp, fun _ => rfl⟩
    · have hsegment := hafter segment rfl
      refine ⟨if pathPart false id = id.filter isKept then [segment] else [], ?_, ?_, ?_⟩
      · change pieces (id ++ '/' :: segment.toList) = _
        rw [pieces_append_slash, pieces, hsegment.1.pathPart.1, hsegment.1.pathPart.2]
        split <;> simp_all
      · intro s hs
        split at hs
        · exact List.mem_singleton.1 hs ▸ hsegment
        · cases hs
      · intro hwhole
        rw [if_pos]
        · rfl
        · exact hwhole.trans
            (List.filter_eq_self.2 fun c hc => ((pathPart_eq_self_iff.1 hwhole).1 c hc).2).symm
  obtain ⟨rest, hpieces, hrest⟩ := hlast
  refine ⟨rest, ?_, hrest⟩
  clear hafter hrest
  unfold text
  dsimp only at *
  induction before with
  | nil => simpa using hpieces
  | cons segment before ih =>
    rw [List.flatMap_cons, List.append_assoc, List.append_assoc, List.singleton_append,
      (hbefore segment List.mem_cons_self).pieces_append, ih fun s hs => hbefore s (.tail _ hs)]
    rfl

end IdRoute

/-! ## Which ids come through -/

/-- A part of a text is all of it if it has as many bytes. -/
theorem eq_of_sublist_of_length_bytes {part text : List Char} (h : part.Sublist text)
    (hlength : (Percent.bytes text).length ≤ (Percent.bytes part).length) : part = text := by
  induction h with
  | slnil => rfl
  | cons c h _ =>
    have hpos := Percent.length_utf8EncodeChar_pos c
    have hle := (h.flatMap String.utf8EncodeChar).length_le
    simp only [Percent.bytes, List.flatMap_cons, List.length_append] at hlength hle
    omega
  | cons_cons c h ih =>
    simp only [Percent.bytes, List.flatMap_cons, List.length_append] at hlength ih
    rw [ih (by omega)]

theorem decode?_encoded (piece : List Char) :
    Percent.decode? (encoded Percent.inPath piece).toList = Percent.decode? piece := by
  rw [encoded, String.toList_ofList, Percent.decode?, Percent.decode?,
    Percent.decodeBytes_encode fun c hc => Percent.free_of_inPath hc]

/-- A piece of an id that decodes to the id. -/
theorem addressable_of_piece {piece : List Char}
    (hpiece : piece ∈ Text.splitOn isSlash (pathPart atEnd id.toList))
    (hone : isOneDot piece = false) (htwo : isTwoDots piece = false)
    (hempty : encoded Percent.inPath piece ≠ "")
    (hdecode : Percent.decode? (encoded Percent.inPath piece).toList = some id) :
    Addressable atEnd id := by
  obtain ⟨hsub, hslash⟩ := Text.sublist_of_mem_splitOn hpiece
  obtain ⟨hkept, -⟩ := pathPart_sublist atEnd id.toList
  rw [decode?_encoded] at hdecode
  -- What is decoded is not longer than the piece, and the piece is a part of the id.
  have hlength := Percent.length_decodeBytes_le piece
  rw [Percent.bytes_of_decode? hdecode] at hlength
  obtain rfl := eq_of_sublist_of_length_bytes
    (hsub.trans (hkept.trans List.filter_sublist)) hlength
  have hwhole := (hkept.trans List.filter_sublist).antisymm hsub
  obtain ⟨hchars, hend⟩ := pathPart_eq_self_iff.1 hwhole
  refine ⟨?_, hone, htwo, ?_, hdecode, hend⟩
  · rintro rfl
    exact hempty rfl
  · simpa [hslash] using fun c hc => ⟨⟨hslash c hc, (hchars c hc).1⟩, (hchars c hc).2⟩

namespace IdRoute

variable {mount : List String} {id : String}

theorem capture?_eq_some_iff {route : IdRoute} {target : String} :
    route.capture? mount target = some id ↔
      ∃ segment, segment ≠ "" ∧ HttpCall.pathSegments target =
        mount ++ route.before ++ segment :: route.after.toList ∧
        Percent.decode? segment.toList = some id := by
  unfold capture?
  constructor
  · intro h
    obtain ⟨segment, -, h⟩ := Option.bind_eq_some_iff.1 h
    split at h
    · rename_i hparts
      exact ⟨segment, hparts.1, hparts.2, h⟩
    · cases h
  · rintro ⟨segment, hempty, hparts, hdecode⟩
    rw [hparts]
    simp [hempty, hdecode]

variable {route : IdRoute} {kind : EntityKind}

/-- What stands in the place of an id is a piece of it, or one of the route's own segments. -/
theorem LeadsTo.addressable (h : route.LeadsTo kind) {segment : String}
    (hempty : segment ≠ "") (hdecode : Percent.decode? segment.toList = some id)
    (hparts : resolve mount.reverse (pieces (route.text id.toList)) =
      mount ++ route.before ++ segment :: route.after.toList) :
    Addressable route.after.isNone id := by
  obtain ⟨rest, hpieces, hrest, -⟩ := h.pieces_text id.toList
  obtain ⟨-, -, hbefore, -⟩ := h
  have hplace : segment ∈
      (resolve mount.reverse (pieces (route.text id.toList))).drop mount.length := by
    rw [hparts]
    simp
  have horigin := forall_drop_resolve (P := fun s => s = "" ∨ Ordinary s ∨
      ∃ piece ∈ Text.splitOn isSlash (pathPart route.after.isNone id.toList),
        isOneDot piece = false ∧ isTwoDots piece = false ∧ s = encoded Percent.inPath piece)
    (.inl rfl) ?_ (by simp) segment hplace
  · obtain rfl | hordinary | ⟨piece, hpiece, hone, htwo, rfl⟩ := horigin
    · exact absurd rfl hempty
    · cases hordinary.1.decoded.symm.trans hdecode
      exact hordinary.1.weaken _
    · exact addressable_of_piece hpiece hone htwo hempty hdecode
  · intro piece hpiece hone htwo
    rw [hpieces] at hpiece
    simp only [List.mem_append, List.mem_map] at hpiece
    obtain ⟨s, hs, rfl⟩ | hpiece | ⟨s, hs, rfl⟩ := hpiece
    · rw [(hbefore s hs).2]
      exact .inr (.inl (hbefore s hs))
    · exact .inr (.inr ⟨piece, hpiece, hone, htwo, rfl⟩)
    · rw [(hrest s hs).2]
      exact .inr (.inl (hrest s hs))

theorem map_encoded {segments : List String} (h : ∀ s ∈ segments, Ordinary s) :
    (segments.map String.toList).map (encoded Percent.inPath) = segments := by
  rw [List.map_map]
  exact (List.map_congr_left fun s hs => (h s hs).2).trans (List.map_id segments)

/-- An id that comes through has a segment of its own. -/
theorem LeadsTo.resolve_text (h : route.LeadsTo kind)
    (hid : Addressable route.after.isNone id) (mount : List String) :
    resolve mount.reverse (pieces (route.text id.toList)) =
      mount ++ route.before ++ encoded Percent.inPath id.toList :: route.after.toList := by
  obtain ⟨rest, hpieces, hrest, hwhole⟩ := h.pieces_text id.toList
  obtain ⟨-, -, hbefore, -⟩ := h
  obtain ⟨hpart, hsplit⟩ := hid.pathPart
  rw [hpieces, hpart, hsplit, resolve_of_no_dots, List.map_append, List.map_append,
    map_encoded hbefore, map_encoded hrest, hwhole hpart, List.reverse_reverse, List.append_assoc]
  · rfl
  · intro piece hpiece
    simp only [List.mem_append, List.mem_map, List.mem_singleton] at hpiece
    obtain ⟨s, hs, rfl⟩ | rfl | ⟨s, hs, rfl⟩ := hpiece
    · exact ⟨(hbefore s hs).1.not_oneDot, (hbefore s hs).1.not_twoDots⟩
    · exact ⟨hid.not_oneDot, hid.not_twoDots⟩
    · exact ⟨(hrest s hs).1.not_oneDot, (hrest s hs).1.not_twoDots⟩

/-- **On its route an id is found in the path if and only if it comes through.** -/
theorem LeadsTo.capture?_iff (h : route.LeadsTo kind) {target : String}
    (htarget : HttpCall.pathSegments target =
      resolve mount.reverse (pieces (route.text id.toList))) :
    route.capture? mount target = some id ↔ Addressable route.after.isNone id := by
  rw [capture?_eq_some_iff, htarget]
  constructor
  · rintro ⟨segment, hempty, hparts, hdecode⟩
    exact h.addressable hempty hdecode hparts
  · intro hid
    have hdecode := hid.decoded
    rw [← decode?_encoded] at hdecode
    refine ⟨_, fun hempty => hid.nonempty ?_, h.resolve_text hid mount, hdecode⟩
    rw [hempty] at hdecode
    exact (Option.some.inj hdecode).symm

end IdRoute

/-- A path is on routes to one kind only, and has the id of it in one place. -/
theorem entity_eq_of_capture? {e e' : Entity} {route route' : IdRoute} {mount : List String}
    {target target' : String} (h : route.LeadsTo e.kind) (h' : route'.LeadsTo e'.kind)
    (hcapture : route.capture? mount target = some e.id)
    (hcapture' : route'.capture? mount target' = some e'.id)
    (hpath : HttpCall.pathSegments target = HttpCall.pathSegments target') : e = e' := by
  obtain ⟨segment, -, hparts, hdecode⟩ := IdRoute.capture?_eq_some_iff.1 hcapture
  obtain ⟨segment', -, hparts', hdecode'⟩ := IdRoute.capture?_eq_some_iff.1 hcapture'
  obtain ⟨hlead, hdepth, -⟩ := h
  obtain ⟨hlead', hdepth', -⟩ := h'
  obtain ⟨kind, id⟩ := e
  obtain ⟨kind', id'⟩ := e'
  dsimp only at *
  rw [hparts, hparts', List.append_assoc, List.append_assoc, List.append_cancel_left_eq] at hpath
  have hlong (kind : EntityKind) : 3 ≤ kind.depth := by cases kind <;> decide
  have htake := congrArg (List.take 3) hpath
  rw [List.take_append_of_le_length (hdepth ▸ hlong kind),
    List.take_append_of_le_length (hdepth' ▸ hlong kind'), hlead, hlead'] at htake
  have hkind : kind = kind' := by
    revert htake
    cases kind <;> cases kind' <;> decide
  subst hkind
  obtain ⟨-, hrest⟩ := List.append_inj hpath (hdepth.trans hdepth'.symm)
  cases (List.cons.inj hrest).1
  cases hdecode.symm.trans hdecode'
  rfl

section

variable {R : Type} [Scalar R]

/-- Where the only call of a request goes. -/
def Request.target? (address : String) (r : Request R) : Option String :=
  match r.calls with
  | [call] => call.target? (HttpCall.trimBase address)
  | _ => none

/-- Different nodes that one path is about. -/
theorem different_ids_share_path :
    ["b", "a/../b", "./b", "b#c", "b\n"].map
      (fun id => (Request.deleteNode id : Request Float).target? "http://[::1]:8080/") =
    List.replicate 5 (some "/api/canvas/nodes/b") := by
  decide +kernel

theorem Request.exists_target {address : String} {base : Url}
    (h : IsAddress (HttpCall.trimBase address) base) {r : Request R} {e : Entity}
    {route : IdRoute} (hsubject : r.subject? = some (e, route)) :
    ∃ target, r.target? address = some target ∧ HttpCall.pathSegments target =
      resolve base.mount.reverse (pieces (route.text e.id.toList)) := by
  obtain ⟨-, call, hcalls, hpath⟩ := Request.path_of_subject? hsubject
  have htext : (HttpCall.trimBase address ++ call.path).toList =
      (HttpCall.trimBase address).toList ++ '/' :: route.text e.id.toList := by
    rw [String.toList_append, hpath]
  obtain ⟨u, hparse, hhost, hsegments, hplain⟩ := h.parse_below _ htext
  refine ⟨u.target, ?_, pathSegments_target hsegments hplain⟩
  rw [Request.target?, hcalls]
  dsimp only
  rw [HttpCall.target?, hparse]
  dsimp only
  rw [if_pos hhost]

/-- **A request about a node, a connection or a session is one call, and its route finds the id in
the path if and only if the id comes through; requests about different ones that come through have
different paths.** -/
theorem requests_address_entities {address : String} {base : Url}
    (h : IsAddress (HttpCall.trimBase address) base) {r r' : Request R} {e e' : Entity}
    {route route' : IdRoute} (hsubject : r.subject? = some (e, route))
    (hsubject' : r'.subject? = some (e', route')) :
    ∃ target target', r.target? address = some target ∧ r'.target? address = some target' ∧
      (route.capture? base.mount target = some e.id ↔ Addressable route.after.isNone e.id) ∧
      (Addressable route.after.isNone e.id → Addressable route'.after.isNone e'.id → e ≠ e' →
        HttpCall.pathSegments target ≠ HttpCall.pathSegments target') := by
  obtain ⟨target, htarget, hpath⟩ := Request.exists_target h hsubject
  obtain ⟨target', htarget', hpath'⟩ := Request.exists_target h hsubject'
  obtain ⟨hroute, -⟩ := Request.path_of_subject? hsubject
  obtain ⟨hroute', -⟩ := Request.path_of_subject? hsubject'
  have hcapture := hroute.capture?_iff hpath
  have hcapture' := hroute'.capture?_iff hpath'
  refine ⟨target, target', htarget, htarget', hcapture, fun hid hid' hne hsame => hne ?_⟩
  exact entity_eq_of_capture? hroute hroute' (hcapture.2 hid) (hcapture'.2 hid') hsame

/-- An id with a blank and an accent comes through, below an address with a path. -/
theorem requests_address_entities_spaced :
    ∃ target target',
      (Request.moveNode "a ä" ⟨0, 0⟩ : Request Float).target? "http://[::1]:8080/base/" =
        some target ∧
      (Request.deleteNode "b" : Request Float).target? "http://[::1]:8080/base/" = some target' ∧
      (⟨EntityKind.node.lead, some "move"⟩ : IdRoute).capture? ["base"] target = some "a ä" ∧
      HttpCall.pathSegments target ≠ HttpCall.pathSegments target' := by
  have haddress : IsAddress (HttpCall.trimBase "http://[::1]:8080/base/")
      { scheme := "http", host := some (.ipv6 [0, 0, 0, 0, 0, 0, 0, 1]), port := some 8080,
        path := .segments ["base", ""] } :=
    ⟨⟨"http", "//[::1]:8080/base/".toList, by decide +kernel, .inl rfl⟩, by decide +kernel, rfl, rfl⟩
  have hmove : (Request.moveNode "a ä" ⟨0, 0⟩ : Request Float).subject? =
      some (⟨.node, "a ä"⟩, ⟨EntityKind.node.lead, some "move"⟩) := rfl
  have hdelete : (Request.deleteNode "b" : Request Float).subject? =
      some (⟨.node, "b"⟩, ⟨EntityKind.node.lead, none⟩) := rfl
  obtain ⟨target, target', htarget, htarget', hcapture, hdiffer⟩ :=
    requests_address_entities haddress hmove hdelete
  exact ⟨target, target', htarget, htarget', hcapture.2 (by decide +kernel),
    hdiffer (by decide +kernel) (by decide +kernel) (by decide)⟩

end

end NodeCanvas
