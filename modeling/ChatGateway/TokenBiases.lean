import ChatGateway.Json.Parser
import ChatGateway.Json.Single

namespace ChatGateway

open Number
open Json (Reader)

namespace TokenBiases

def insertEntry (token : UInt32) (bias : Binary) : List (UInt32 × Binary) → List (UInt32 × Binary)
  | [] => [(token, bias)]
  | (t, b) :: es =>
    if token < t then (token, bias) :: (t, b) :: es
    else if token = t then (token, bias) :: es
    else (t, b) :: insertEntry token bias es

abbrev Ascending (es : List (UInt32 × Binary)) : Prop :=
  es.Pairwise fun e f => e.1 < f.1

theorem mem_insertEntry {token : UInt32} {bias : Binary} {es : List (UInt32 × Binary)}
    {e : UInt32 × Binary} (h : e ∈ insertEntry token bias es) : e = (token, bias) ∨ e ∈ es := by
  induction es with
  | nil => simpa [insertEntry] using h
  | cons f es ih =>
    obtain ⟨t, b⟩ := f
    simp only [insertEntry] at h
    split at h
    · simpa using h
    · split at h
      · rcases List.mem_cons.mp h with h | h
        · exact .inl h
        · exact .inr (List.mem_cons_of_mem _ h)
      · rcases List.mem_cons.mp h with h | h
        · exact .inr (h ▸ List.mem_cons_self)
        · exact (ih h).imp_right (List.mem_cons_of_mem _)

theorem ascending_insertEntry {token : UInt32} {bias : Binary} {es : List (UInt32 × Binary)}
    (h : Ascending es) : Ascending (insertEntry token bias es) := by
  induction es with
  | nil => simp [insertEntry, Ascending]
  | cons f es ih =>
    obtain ⟨t, b⟩ := f
    obtain ⟨hf, hes⟩ := List.pairwise_cons.mp h
    simp only [insertEntry]
    split
    next lt =>
      refine List.pairwise_cons.mpr ⟨fun e he => ?_, h⟩
      rcases List.mem_cons.mp he with rfl | he
      · exact lt
      · exact UInt32.lt_trans lt (hf e he)
    next nlt =>
      split
      next eq =>
        subst eq
        exact List.pairwise_cons.mpr ⟨hf, hes⟩
      next ne =>
        refine List.pairwise_cons.mpr ⟨fun e he => ?_, ih hes⟩
        rcases mem_insertEntry he with rfl | he
        · exact UInt32.lt_of_le_of_ne (UInt32.not_lt.mp nlt) (Ne.symm ne)
        · exact hf e he

end TokenBiases

structure TokenBiases where
  entries : List (UInt32 × Binary)
  ascending : TokenBiases.Ascending entries := by simp
deriving DecidableEq, Repr

namespace TokenBiases

def empty : TokenBiases where
  entries := []

def insert (bs : TokenBiases) (token : UInt32) (bias : Binary) : TokenBiases where
  entries := insertEntry token bias bs.entries
  ascending := ascending_insertEntry bs.ascending

/-- The token that the key of a member names: a numeral between the quotes and nothing else. What the key begins
with is looked at as it is written, before any escape. -/
def readKey (key : Json.Quoted) : Except Json.ReadError UInt32 :=
  if key.raw.head?.any fun c => c == '-' || (digit? c).isSome then
    match Json.numeral key.raw with
    | (v, some rest) => do
      let token ← Reader.uint32 v
      if rest.isEmpty && key.closed then return token else throw .malformed
    | (_, none) => throw .malformed
  else throw .keyNotNumber

def readMembers (bs : TokenBiases) :
    List (Option Json.Quoted × Json) → Except Json.ReadError TokenBiases
  | [] => .ok bs
  | (none, _) :: _ => .error .malformed
  | (some key, v) :: ms => do
    let token ← readKey key
    let bias ← Reader.single v
    readMembers (bs.insert token bias) ms

def reader : Reader TokenBiases
  | .object members closed => do
    let bs ← readMembers empty members
    if closed then return bs else throw .malformed
  | v => .error (v.mismatch .map)

def key (token : UInt32) : String :=
  String.ofList ((digits token.toNat).map digitChar)

/-- Biases as they are written. Nothing says in what order of the tokens, and another order is another text. -/
def listed (entries : List (UInt32 × Binary)) : Json := .record (entries.map fun e => (key e.1, .ofSingle e.2))

def toJson (bs : TokenBiases) : Json := listed bs.entries

end TokenBiases

end ChatGateway
