import QueryTyping.Json.Decode
import QueryTyping.Proofs.WrittenDocuments

namespace QueryTyping.Json

mutual

def depth : Json → Nat
  | null | bool _ | number _ | string _ => 0
  | array vs => depthOfList vs + 1
  | object es => depthOfEntries es + 1

def depthOfList : List Json → Nat
  | [] => 0
  | v :: vs => max v.depth (depthOfList vs)

def depthOfEntries : List (String × Json) → Nat
  | [] => 0
  | (_, v) :: es => max v.depth (depthOfEntries es)

end

theorem depth_le_depthOfList {v : Json} {vs : List Json} (h : v ∈ vs) :
    v.depth ≤ depthOfList vs := by
  induction vs with
  | nil => exact absurd h List.not_mem_nil
  | cons w vs ih =>
    rw [depthOfList]
    rcases List.mem_cons.1 h with rfl | h
    · exact Nat.le_max_left _ _
    · exact Nat.le_trans (ih h) (Nat.le_max_right _ _)

inductive Fits : Json → Prop where
  | null : Fits null
  | bool (b : Bool) : Fits (bool b)
  | number {n : Nat} : n < UInt64.size → Fits (number n)
  | string (s : String) : Fits (string s)
  | array {vs : List Json} : (∀ v ∈ vs, Fits v) → Fits (array vs)
  | object {es : List (String × Json)} : (∀ e ∈ es, Fits e.2) → Fits (object es)

theorem fits_strings (l : List String) : (strings l).Fits := by
  refine .array fun v hv => ?_
  obtain ⟨s, -, rfl⟩ := List.mem_map.1 hv
  exact .string s

theorem faultOfList?_documents {vs : List Json} {room : Nat}
    (hvs : ∀ v ∈ vs, v.depth < room → v.document.fault? room = none)
    (h : depthOfList vs < room) : Document.faultOfList? room (documents vs) = none := by
  induction vs with
  | nil => rfl
  | cons v vs ih =>
    obtain ⟨hv, hvs⟩ := List.forall_mem_cons.1 hvs
    rw [depthOfList, Nat.max_lt] at h
    rw [documents, Document.faultOfList?, hv h.1, ih hvs h.2]
    rfl

theorem faultOfEntries?_documentEntries {es : List (String × Json)} {room : Nat}
    (hes : ∀ e ∈ es, e.2.depth < room → e.2.document.fault? room = none)
    (h : depthOfEntries es < room) :
    Document.faultOfEntries? room (documentEntries es) = none := by
  induction es with
  | nil => rfl
  | cons e es ih =>
    obtain ⟨he, hes⟩ := List.forall_mem_cons.1 hes
    rw [depthOfEntries, Nat.max_lt] at h
    rw [documentEntries, Document.faultOfEntries?, he h.1, ih hes h.2]
    rfl

theorem Fits.fault?_document {v : Json} (hv : v.Fits) {room : Nat} (h : v.depth < room) :
    v.document.fault? room = none := by
  induction hv generalizing room with
  | null | bool _ | string _ => rfl
  | number hn => simp [document, Document.fault?, Number.ofDigitsOf_of_lt hn, Document.scalarFault?]
  | array _ ih =>
    rw [depth] at h
    rw [document, Document.fault?, if_neg (by omega),
      faultOfList?_documents (fun v hv => ih v hv) (by omega)]
    rfl
  | object _ ih =>
    rw [depth] at h
    rw [document, Document.fault?, if_neg (by omega),
      faultOfEntries?_documentEntries (fun e he => ih e he) (by omega)]
    rfl

theorem decodeItems_documents {α : Type} {read : Document → Decoded α} {f : α → Json} {l : List α}
    (h : ∀ a ∈ l, read (f a).document = .ok a) (i : Nat) :
    decodeItems read i (documents (l.map f)) = .ok l := by
  induction l generalizing i with
  | nil => rfl
  | cons a l ih =>
    obtain ⟨ha, hl⟩ := List.forall_mem_cons.1 h
    rw [List.map_cons, documents, decodeItems, ha, ih hl]
    rfl

theorem decodeList_map {α : Type} {read : Document → Decoded α} {f : α → Json} {l : List α}
    (h : ∀ a ∈ l, read (f a).document = .ok a) :
    decodeList read (array (l.map f)).document = .ok l := by
  rw [document, decodeList, decodeItems_documents h]
  rfl

theorem decodeList_strings (l : List String) :
    decodeList Document.text (strings l).document = .ok l :=
  decodeList_map fun _ _ => rfl

end QueryTyping.Json
