import ChatGateway.EventStream
import ChatGateway.Reply
import ChatGateway.Request

namespace ChatGateway

open EventStream (Item)

inductive Response where
  | failure (fault : Fault)
  | reply (r : Except Fault Reply)
  /-- The items of a stream, which then ends or goes on without any more of them. -/
  | stream (items : List Item) (stalls : Bool)
  | silence

namespace Response

def reply? : Response → Option (Except Fault Reply)
  | .failure fault => some (.error fault)
  | .reply r => some r
  | .stream .. => some (.ok .empty)
  | .silence => none

def opened : Response → Except Fault (List Item × Bool)
  | .failure fault => .error fault
  | .reply _ => .ok ([], false)
  | .stream items stalls => .ok (items, stalls)
  | .silence => .ok ([], true)

end Response

/-- The response to each request, by the number of requests before it. -/
abbrev Provider := Nat → ChatRequest → Response

end ChatGateway
