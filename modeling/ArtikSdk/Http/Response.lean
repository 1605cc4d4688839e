import Mathlib.Data.List.TakeWhile
import ArtikSdk.Lib.Bytes
import ArtikSdk.Base.Error

/-!
# The response on Linux

`response_callback` of `linux_http.c`, which curl calls for each chunk of the body; its chunks
fit into an `int`. The block at `*response` keeps no length, so that the bytes in it count as far
as the first NUL.
-/

namespace ArtikSdk.Http.Linux
open Lib

/-- The bytes of an allocated block. -/
abbrev Block := List Byte

/-- The bytes as far as the first NUL: `strlen` is the length of it. -/
def text (s : List Byte) : List Byte := s.takeWhile (· ≠ 0)

/-- `strndup` of the `len` bytes at `rx_data`. -/
def strndup (data : List Byte) : Block := text data ++ [0]

/-- `realloc` to `n` bytes, with `fresh` in what is new. -/
def realloc (fresh : Nat → Byte) (block : Block) (n : Nat) : Block :=
  block.take n ++ (List.range (n - block.length)).map fresh

/-- `strncat` of the `len` bytes at `rx_data`. There is no result where it writes behind the block. -/
def strncat (block : Block) (data : List Byte) : Option Block :=
  let whole := text block ++ text data ++ [0]
  if whole.length ≤ block.length then some (whole ++ block.drop whole.length) else none

/-- A chunk of the body, whether there is memory for it, and what a block that grows has in its new bytes. -/
structure Delivery where
  chunk : List Byte
  memory : Bool
  fresh : Nat → Byte

/-- The number of bytes taken, and `*response`. -/
def responseCallback (d : Delivery) (response : Option Block) : Option (Nat × Option Block) :=
  let len := d.chunk.length
  match response with
  | none => if d.memory then some (len, some (strndup d.chunk)) else some (0, none)
  | some block =>
    if d.memory then
      match strncat (realloc d.fresh block ((text block).length + len + 1)) d.chunk with
      | some block => some (len, some block)
      | none => none
    else some (0, none)

/-- `curl_easy_perform` on the chunks: it fails where one is not taken whole. -/
def perform : List Delivery → Option Block → Option (ArtikError × Option Block)
  | [], response => some (.ok, response)
  | d :: ds, response =>
    match responseCallback d response with
    | none => none
    | some (taken, response) => if taken = d.chunk.length then perform ds response else some (.httpError, response)

/-- The request, from `*response = NULL` on. -/
def request (ds : List Delivery) : Option (ArtikError × Option Block) := perform ds none

/-- However the memory is, the response of a request that succeeds is the chunks one after the other and a NUL. -/
def Accumulates (chunks : List (List Byte)) : Prop :=
  ∀ ds : List Delivery, ds.map (·.chunk) = chunks →
    ∀ response, request ds = some (.ok, response) → response = some (chunks.flatten ++ [0])

variable {s data : List Byte} {block : Block} {d : Delivery} {ds : List Delivery} {chunks : List (List Byte)}

/-! ## Strings -/

theorem text_clean (clean : 0 ∉ s) : text s = s := by
  refine List.takeWhile_eq_self_iff.2 fun b inside => decide_eq_true ?_
  rintro rfl
  exact clean inside

theorem zero_notMem_text (s : List Byte) : 0 ∉ text s := by
  intro inside
  have nonzero := List.mem_takeWhile_imp (p := fun b : Byte => decide (b ≠ 0)) inside
  exact of_decide_eq_true nonzero rfl

theorem text_append_zero (clean : 0 ∉ s) (rest : List Byte) : text (s ++ 0 :: rest) = s := by
  have inside : ∀ b ∈ s, decide (b ≠ 0) = true := by
    intro b inside
    refine decide_eq_true ?_
    rintro rfl
    exact clean inside
  rw [text, List.takeWhile_append_of_pos inside, List.takeWhile_cons_of_neg (by simp), List.append_nil]

theorem text_length_le (s : List Byte) : (text s).length ≤ s.length := (List.takeWhile_sublist _).length_le

/-! ## One chunk -/

/-- Behind a string, `strncat` writes the text of the chunk and a NUL, which the block is large enough for. -/
theorem strncat_string (clean : 0 ∉ s) {rest : List Byte} (room : data.length ≤ rest.length) :
    strncat (s ++ 0 :: rest) data = some (s ++ text data ++ 0 :: rest.drop (text data).length) := by
  have least := text_length_le data
  have fits : (s ++ text data ++ [0]).length ≤ (s ++ 0 :: rest).length := by
    simp only [List.length_append, List.length_cons, List.length_nil]
    omega
  have length : (s ++ text data ++ [0]).length = s.length + ((text data).length + 1) := by
    simp only [List.length_append, List.length_cons, List.length_nil]
    omega
  rw [strncat, text_append_zero clean, if_pos fits, length, List.drop_length_add_append, List.drop_succ_cons, List.append_assoc _ [0],
    List.singleton_append]

theorem realloc_string (fresh : Nat → Byte) (s rest : List Byte) (n : Nat) :
    realloc fresh (s ++ 0 :: rest) (s.length + n + 1) = s ++ 0 :: (rest.take n ++ (List.range (n - rest.length)).map fresh) := by
  have more : s.length + n + 1 - (s ++ 0 :: rest).length = n - rest.length := by
    simp only [List.length_append, List.length_cons]
    omega
  rw [realloc, more, Nat.add_assoc, List.take_length_add_append, List.take_succ_cons, List.append_assoc, List.cons_append]

/-- The callback with memory, on a string and what is behind it. It never writes behind the block. -/
theorem callback_string (clean : 0 ∉ s) (rest : List Byte) (memory : d.memory = true) :
    ∃ behind, responseCallback d (some (s ++ 0 :: rest)) = some (d.chunk.length, some (s ++ text d.chunk ++ 0 :: behind)) ∧
      (∀ b ∈ behind, b ∈ rest ∨ b ∈ Set.range d.fresh) ∧ (0 ∉ d.chunk → rest = [] → behind = []) := by
  have grown := realloc_string d.fresh s rest d.chunk.length
  have room : d.chunk.length ≤ (rest.take d.chunk.length ++ (List.range (d.chunk.length - rest.length)).map d.fresh).length := by
    simp only [List.length_append, List.length_take, List.length_map, List.length_range]
    omega
  have stored := strncat_string clean room
  rw [← grown] at stored
  rw [responseCallback, if_pos memory, text_append_zero clean, stored]
  refine ⟨_, rfl, ?_, ?_⟩
  · intro b inside
    obtain old | new := List.mem_append.1 (List.mem_of_mem_drop inside)
    · exact .inl (List.mem_of_mem_take old)
    · obtain ⟨k, -, rfl⟩ := List.mem_map.1 new
      exact .inr ⟨k, rfl⟩
  · rintro chunkClean rfl
    rw [text_clean chunkClean]
    simp

theorem callback_first (memory : d.memory = true) :
    responseCallback d none = some (d.chunk.length, some (text d.chunk ++ [0])) := by
  rw [responseCallback, if_pos memory]
  rfl

/-- Without memory nothing is taken, and what there was is lost. -/
theorem callback_fails (memory : d.memory = false) (response : Option Block) : responseCallback d response = some (0, none) := by
  cases response with
  | none => rw [responseCallback, if_neg (by simp [memory])]
  | some block =>
    rw [responseCallback, if_neg (by simp [memory])]

/-- `*response` is NULL or has a string in it. -/
def Terminated (response : Option Block) : Prop := ∀ block ∈ response, ∃ s rest, 0 ∉ s ∧ block = s ++ 0 :: rest

theorem callback_terminated {response : Option Block} (terminated : Terminated response) (d : Delivery) :
    ∃ taken response', responseCallback d response = some (taken, response') ∧ Terminated response' := by
  by_cases memory : d.memory = true
  · cases response with
    | none =>
      refine ⟨_, _, callback_first memory, fun block same => ⟨text d.chunk, [], zero_notMem_text _, ?_⟩⟩
      cases same
      rfl
    | some block =>
      obtain ⟨s, rest, clean, rfl⟩ := terminated block rfl
      obtain ⟨behind, called, -, -⟩ := callback_string clean rest memory
      refine ⟨_, _, called, fun block same => ⟨s ++ text d.chunk, behind, ?_, ?_⟩⟩
      · rw [List.mem_append, not_or]
        exact ⟨clean, zero_notMem_text _⟩
      · cases same
        rfl
  · exact ⟨_, _, callback_fails (by simpa using memory) response, nofun⟩

/-- Nothing is written behind a block. -/
theorem perform_defined {response : Option Block} (terminated : Terminated response) (ds : List Delivery) :
    perform ds response ≠ none := by
  induction ds generalizing response with
  | nil => exact nofun
  | cons d ds ih =>
    obtain ⟨taken, response', called, terminated'⟩ := callback_terminated terminated d
    rw [perform, called]
    dsimp only
    split
    · exact ih terminated'
    · exact nofun

/-! ## The body -/

/-- A chunk for which there is memory, with ones in it. -/
def steady (chunk : List Byte) : Delivery := ⟨chunk, true, fun _ => 1⟩

/-- A chunk for which there is none. -/
def starved (chunk : List Byte) : Delivery := ⟨chunk, false, fun _ => 1⟩

theorem chunks_steady (chunks : List (List Byte)) : (chunks.map steady).map (·.chunk) = chunks := by
  rw [List.map_map]
  exact List.map_id chunks

theorem chunks_starved (chunks : List (List Byte)) : (chunks.map starved).map (·.chunk) = chunks := by
  rw [List.map_map]
  exact List.map_id chunks

theorem perform_append {response out : Option Block} {more : List Delivery} (done : perform ds response = some (.ok, out)) :
    perform (ds ++ more) response = perform more out := by
  induction ds generalizing response with
  | nil =>
    cases done
    rfl
  | cons d ds ih =>
    rw [perform] at done
    rw [List.cons_append, perform]
    cases called : responseCallback d response with
    | none =>
      rw [called] at done
      cases done
    | some result =>
      obtain ⟨taken, response⟩ := result
      rw [called] at done
      dsimp only at done ⊢
      by_cases whole : taken = d.chunk.length
      · rw [if_pos whole] at done ⊢
        exact ih done
      · rw [if_neg whole] at done
        cases done

/-- With memory, the string grows by the text of each chunk. -/
theorem perform_steady (clean : 0 ∉ s) {rest : List Byte} (ones : ∀ b ∈ rest, b = 1) (chunks : List (List Byte)) :
    ∃ behind, perform (chunks.map steady) (some (s ++ 0 :: rest)) = some (.ok, some (s ++ (chunks.map text).flatten ++ 0 :: behind)) ∧
      (∀ b ∈ behind, b = 1) ∧ ((∀ c ∈ chunks, 0 ∉ c) → rest = [] → behind = []) := by
  induction chunks generalizing s rest with
  | nil => exact ⟨rest, by rw [List.map_nil, List.map_nil, List.flatten_nil, List.append_nil]; rfl, ones, fun _ none => none⟩
  | cons c cs ih =>
    obtain ⟨behind, called, fresh, exact⟩ := callback_string (d := steady c) clean rest rfl
    have chunk : (steady c).chunk = c := rfl
    rw [chunk] at called exact
    have longer : 0 ∉ s ++ text c := by
      rw [List.mem_append, not_or]
      exact ⟨clean, zero_notMem_text c⟩
    have ones' : ∀ b ∈ behind, b = 1 := by
      intro b inside
      obtain old | ⟨_, rfl⟩ := fresh b inside
      · exact ones b old
      · rfl
    obtain ⟨behind', performed, ones'', exact'⟩ := ih longer ones'
    refine ⟨behind', ?_, ones'', fun cleanAll none => ?_⟩
    · rw [List.map_cons, perform, called]
      dsimp only
      rw [chunk, if_pos rfl, performed, List.map_cons, List.flatten_cons, List.append_assoc s]
    · exact exact' (fun c' inside => cleanAll c' (List.mem_cons_of_mem _ inside)) (exact (cleanAll c List.mem_cons_self) none)

theorem request_steady (c : List Byte) (cs : List (List Byte)) :
    ∃ behind, request ((c :: cs).map steady) = some (.ok, some (((c :: cs).map text).flatten ++ 0 :: behind)) ∧
      (∀ b ∈ behind, b = 1) ∧ ((∀ c' ∈ c :: cs, 0 ∉ c') → behind = []) := by
  obtain ⟨behind, performed, ones, exact⟩ := perform_steady (zero_notMem_text c) (show ∀ b ∈ ([] : List Byte), b = 1 from nofun) cs
  refine ⟨behind, ?_, ones, fun clean => exact (fun c' inside => clean c' (List.mem_cons_of_mem _ inside)) rfl⟩
  rw [request, List.map_cons, perform, callback_first rfl]
  dsimp only
  rw [if_pos rfl, show (steady c).chunk = c from rfl, performed, List.map_cons, List.flatten_cons]

theorem map_text_clean (clean : ∀ c ∈ chunks, 0 ∉ c) : chunks.map text = chunks :=
  (List.map_congr_left fun c inside => text_clean (clean c inside)).trans (List.map_id _)

/-- Empty chunks are taken without memory, too. -/
theorem perform_starved (empty : ∀ c ∈ chunks, c = []) : perform (chunks.map starved) none = some (.ok, none) := by
  induction chunks with
  | nil => rfl
  | cons c cs ih =>
    obtain rfl : c = [] := empty c List.mem_cons_self
    rw [List.map_cons, perform, callback_fails rfl]
    exact ih fun c inside => empty c (List.mem_cons_of_mem _ inside)

/-- What the response is after `before`: nothing yet only where there is nothing to be in it. -/
def After (before : List Byte) (response : Option Block) : Prop :=
  response = some (before ++ [0]) ∨ response = none ∧ before = []

/-- No chunk without bytes comes behind one that has some. -/
def EmptyFirst (before : List Byte) (chunks : List (List Byte)) : Prop :=
  ∀ xs ys, chunks = xs ++ [] :: ys → before ++ xs.flatten = []

theorem callback_after {before : List Byte} {response : Option Block} (clean : 0 ∉ before) (chunkClean : 0 ∉ d.chunk)
    (memory : d.memory = true) (state : After before response) :
    responseCallback d response = some (d.chunk.length, some (before ++ d.chunk ++ [0])) := by
  obtain rfl | ⟨rfl, rfl⟩ := state
  · obtain ⟨behind, called, -, exact⟩ := callback_string clean [] memory
    rw [called, exact chunkClean rfl, text_clean chunkClean]
  · rw [callback_first memory, text_clean chunkClean, List.nil_append]

theorem perform_after {before : List Byte} {response out : Option Block} (clean : 0 ∉ before) (chunksClean : ∀ d ∈ ds, 0 ∉ d.chunk)
    (first : EmptyFirst before (ds.map (·.chunk))) (state : After before response) (done : perform ds response = some (.ok, out)) :
    After (before ++ (ds.map (·.chunk)).flatten) out := by
  induction ds generalizing before response with
  | nil =>
    cases done
    rwa [List.map_nil, List.flatten_nil, List.append_nil]
  | cons d ds ih =>
    have chunkClean := chunksClean d List.mem_cons_self
    have longer : 0 ∉ before ++ d.chunk := by
      rw [List.mem_append, not_or]
      exact ⟨clean, chunkClean⟩
    have first' : EmptyFirst (before ++ d.chunk) (ds.map (·.chunk)) := by
      intro xs ys split
      have nothing := first (d.chunk :: xs) ys (by rw [List.map_cons, split, List.cons_append])
      rwa [List.flatten_cons, ← List.append_assoc] at nothing
    have next (response : Option Block) (state : After (before ++ d.chunk) response) (done : perform ds response = some (.ok, out)) :=
      ih longer (fun d inside => chunksClean d (List.mem_cons_of_mem _ inside)) first' state done
    rw [List.append_assoc, ← List.flatten_cons, ← List.map_cons (f := fun d : Delivery => d.chunk)] at next
    rw [perform] at done
    by_cases memory : d.memory = true
    · rw [callback_after clean chunkClean memory state] at done
      dsimp only at done
      rw [if_pos rfl] at done
      exact next _ (.inl rfl) done
    · rw [callback_fails (by simpa using memory)] at done
      dsimp only at done
      by_cases empty : 0 = d.chunk.length
      · rw [if_pos empty] at done
        have none : d.chunk = [] := List.length_eq_zero_iff.1 empty.symm
        have nothing := first [] (ds.map (·.chunk)) (by rw [List.map_cons, none, List.nil_append])
        rw [List.flatten_nil, List.append_nil] at nothing
        exact next _ (.inr ⟨rfl, by rw [nothing, none]; rfl⟩) done
      · rw [if_neg empty] at done
        cases done

/-! ## When the response is the body -/

theorem clean_of_accumulates (accumulates : Accumulates chunks) (chunked : chunks ≠ []) : ∀ c ∈ chunks, 0 ∉ c := by
  obtain ⟨c, cs, rfl⟩ := List.exists_cons_of_ne_nil chunked
  obtain ⟨behind, performed, ones, -⟩ := request_steady c cs
  have same := Option.some.inj (accumulates _ (chunks_steady _) _ performed)
  -- the last byte is a NUL, so that nothing is behind the string
  have none : behind = [] := by
    rcases List.eq_nil_or_concat behind with none | ⟨init, last, rfl⟩
    · exact none
    · have one : last = 1 := ones last (by simp)
      rw [List.concat_eq_append, ← List.cons_append, ← List.append_assoc] at same
      have zero := List.append_inj_right' same rfl
      rw [one] at zero
      exact absurd zero (by decide)
  rw [none] at same
  have body := List.append_inj_left' same rfl
  intro c' inside zero
  have inText : 0 ∈ ((c :: cs).map text).flatten := by
    rw [body]
    exact List.mem_flatten.2 ⟨c', inside, zero⟩
  obtain ⟨t, from', inside'⟩ := List.mem_flatten.1 inText
  obtain ⟨c'', -, rfl⟩ := List.mem_map.1 from'
  exact zero_notMem_text c'' inside'

theorem emptyFirst_of_accumulates (accumulates : Accumulates chunks) (clean : ∀ c ∈ chunks, 0 ∉ c) : EmptyFirst [] chunks := by
  rintro xs ys rfl
  rw [List.nil_append]
  by_contra bytes
  obtain ⟨x, xs, rfl⟩ : ∃ x xs', xs = x :: xs' := List.exists_cons_of_ne_nil fun none => bytes (by rw [none]; rfl)
  obtain ⟨behind, performed, -, exact⟩ := request_steady x xs
  have lost : request ((x :: xs).map steady ++ starved [] :: ys.map steady) = perform (ys.map steady) none := by
    rw [request, perform_append performed, perform, callback_fails rfl]
    rfl
  have deliveries : ((x :: xs).map steady ++ starved [] :: ys.map steady).map (·.chunk) = x :: xs ++ [] :: ys := by
    rw [List.map_append, chunks_steady, List.map_cons, chunks_steady]
    rfl
  cases ys with
  | nil =>
    exact nomatch accumulates _ deliveries none lost
  | cons y ys =>
    obtain ⟨behind', performed', -, exact'⟩ := request_steady y ys
    have same := accumulates _ deliveries _ (lost.trans performed')
    have cleanAfter : ∀ c ∈ y :: ys, 0 ∉ c := fun c inside =>
      clean c (List.mem_append_right _ (List.mem_cons_of_mem _ inside))
    rw [exact' cleanAfter, map_text_clean cleanAfter, List.flatten_append] at same
    have lengths := congrArg List.length (Option.some.inj same)
    have positive := List.length_pos_iff.2 bytes
    have empty : ([] :: y :: ys).flatten = (y :: ys).flatten := rfl
    rw [empty, List.length_append, List.length_append, List.length_append] at lengths
    simp only [List.length_cons, List.length_nil] at lengths
    omega

/-- **The response is the body**, for a body in these chunks, exactly when no byte of it is a NUL, there are any, and no
empty chunk is behind them. -/
theorem accumulates_iff (chunks : List (List Byte)) :
    Accumulates chunks ↔ (∀ c ∈ chunks, 0 ∉ c) ∧ chunks.flatten ≠ [] ∧ EmptyFirst [] chunks := by
  constructor
  · intro accumulates
    have bytes : chunks.flatten ≠ [] := by
      intro none
      have empty : ∀ c ∈ chunks, c = [] := fun c inside => List.flatten_eq_nil_iff.1 none c inside
      exact nomatch accumulates (chunks.map starved) (chunks_starved chunks) Option.none (perform_starved empty)
    have clean := clean_of_accumulates accumulates fun none => bytes (by rw [none]; rfl)
    exact ⟨clean, bytes, emptyFirst_of_accumulates accumulates clean⟩
  · rintro ⟨clean, bytes, first⟩ ds rfl response done
    obtain right | ⟨-, none⟩ := perform_after (show (0 : Byte) ∉ [] from nofun)
      (fun d inside => clean d.chunk (List.mem_map_of_mem inside)) first (.inr ⟨rfl, rfl⟩) done
    · exact right
    · exact absurd none bytes

/-- The body of two letters with a NUL between them, in one chunk. -/
def nulInside : List (List Byte) := [[0x61, 0, 0x62]]

theorem nulInside_cut : ¬ Accumulates nulInside := by
  intro accumulates
  exact absurd (accumulates [steady [0x61, 0, 0x62]] rfl _ rfl) (by decide)

end ArtikSdk.Http.Linux
