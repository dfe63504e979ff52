import Reversi.Board.Diagram
import Reversi.Engine.Match
import Reversi.Engine.Minimax
import Reversi.Main
import Reversi.Room.Notice
import Reversi.Proofs.Engine.Stored
import Reversi.Proofs.Room.BestReplies
import Reversi.Proofs.Room.Endgame
import Reversi.Proofs.Room.Replies
import Reversi.Proofs.Room.Acceptance
import Reversi.Proofs.Web.Requests
import Reversi.Proofs.Web.Run
import Reversi.Proofs.Web.Changes
import Reversi.Proofs.Web.Coherence
import Reversi.Proofs.Room.Renaming
import Reversi.Proofs.Web.Renaming
import Reversi.Proofs.Web.FrontEnd
import Reversi.Proofs.Web.Mirror
import Reversi.Proofs.Web.Separation
import Reversi.Proofs.Room.Forward
import Reversi.Proofs.Room.Discs
import Reversi.Proofs.Room.Solo
import Reversi.Proofs.Web.Holder
import Reversi.Proofs.Flips
import Reversi.Proofs.Legality
import Reversi.Proofs.Symmetry
import Reversi.Proofs.Engine.AnyTable
import Reversi.Proofs.Engine.ForcedWin
import Reversi.Proofs.Engine.Symmetry
import Reversi.Proofs.Room.Seats
import Reversi.Proofs.Diagram
import Reversi.Proofs.Room.Edges
import Reversi.Proofs.Zobrist
import Reversi.Proofs.Engine.Ordering
import Reversi.Proofs.Room.Journal
